import Mathlib.Data.List.Induction
import ReadThrough.Proofs.PassedOver

/-! Documents that give some settings of a configuration: an object that lists them in any order
among other members, or an array that lists the first ones in their order. Each of them is read as
the configuration that has these settings and the defaults elsewhere. An object that gives a
setting twice is refused for it. -/

namespace ReadThrough.Config

open Json (Token Blank Body Spells Whole Form Apart)

/-- What a field of a configuration holds. -/
inductive Value where
  | text (value : String)
  | peers (values : List String)
  | count (value : Nat)
deriving DecidableEq

def value (config : Config) : Field → Value
  | .text .addr => .text config.addr
  | .peers => .peers config.peers
  | .text .basePath => .text config.basePath
  | .count .replicas => .count config.replicas
  | .count .fetchTimeoutMs => .count config.fetchTimeoutMs
  | .count .cacheBytes => .count config.cacheBytes
  | .count .historyBytes => .count config.historyBytes
  | .count .admissionK => .count config.admissionK

/-- A field with a value of its kind. Counts have 64 bits. -/
inductive Setting where
  | text (field : TextField) (value : String)
  | peers (values : List String)
  | count (field : CountField) (value : UInt64)

namespace Setting

def field : Setting → Field
  | text field _ => .text field
  | peers _ => .peers
  | count field _ => .count field

def value : Setting → Value
  | text _ value => .text value
  | peers values => .peers values
  | count _ value => .count value.toNat

end Setting

/-- The configuration has these settings, and the defaults elsewhere. -/
structure Settles (config : Config) (settings : List Setting) : Prop where
  given : ∀ setting ∈ settings, config.value setting.field = setting.value
  default : ∀ field, (∀ setting ∈ settings, setting.field ≠ field) →
    config.value field = ({} : Config).value field

/-- Items with blanks around them and commas between them. -/
inductive Listed {α : Type} (writes : List Char → α → Prop) : List Char → List α → Prop where
  | last {left text right : List Char} {item : α} (before : Blank left) (written : writes text item)
      (after : Blank right) : Listed writes (left ++ (text ++ right)) [item]
  | more {left text right rest : List Char} {item : α} {items : List α} (before : Blank left)
      (written : writes text item) (after : Blank right) (others : Listed writes rest items) :
      Listed writes (left ++ (text ++ (right ++ ',' :: rest))) (item :: items)

inductive WritesText : List Char → String → Prop where
  | quoted {body : List Char} {value : String} (spells : Spells body value.toList) :
      WritesText ('"' :: (body ++ ['"'])) value

/-- A value of a document that gives a setting. -/
inductive Writes : List Char → Setting → Prop where
  | text {text : List Char} {field : TextField} {value : String} (written : WritesText text value) :
      Writes text (.text field value)
  | noPeers {blanks : List Char} (blank : Blank blanks) :
      Writes ('[' :: (blanks ++ [']'])) (.peers [])
  | peers {text : List Char} {values : List String} (written : Listed WritesText text values) :
      Writes ('[' :: (text ++ [']'])) (.peers values)
  | count {digits : List Char} {field : CountField} {value : UInt64} (whole : Whole digits)
      (same : Nat.ofDigitChars 10 digits 0 = value.toNat) : Writes digits (.count field value)

/-- A member of an object with the setting that it gives. A member of another name gives none,
and any value of JSON may stand there. -/
inductive Member : List Char → Option Setting → Prop where
  | setting {left body right front text back : List Char} {setting : Setting} (before : Blank left)
      (name : Spells body setting.field.name.toList) (after : Blank right) (ahead : Blank front)
      (written : Writes text setting) (behind : Blank back) :
      Member (left ++ '"' :: (body ++ '"' :: (right ++ ':' :: (front ++ (text ++ back)))))
        (some setting)
  | other {left body name right text : List Char} (before : Blank left) (spells : Spells body name)
      (unknown : ∀ field : Field, field.name.toList ≠ name) (after : Blank right)
      (element : Form .element text) :
      Member (left ++ '"' :: (body ++ '"' :: (right ++ ':' :: text))) none

inductive Members : List Char → List Setting → Prop where
  | last {text : List Char} {given : Option Setting} (member : Member text given) :
      Members text given.toList
  | more {text rest : List Char} {given : Option Setting} {settings : List Setting}
      (member : Member text given) (others : Members rest settings) :
      Members (text ++ ',' :: rest) (given.toList ++ settings)

/-- A document that is an object, with the settings that it gives in their order. -/
inductive ObjectText : List Char → List Setting → Prop where
  | empty {left inside right : List Char} (before : Blank left) (blank : Blank inside)
      (after : Blank right) : ObjectText (left ++ '\x7b' :: (inside ++ '\x7d' :: right)) []
  | members {left text right : List Char} {settings : List Setting} (before : Blank left)
      (members : Members text settings) (after : Blank right) :
      ObjectText (left ++ '\x7b' :: (text ++ '\x7d' :: right)) settings

/-- A document that is an array of values. -/
inductive ArrayText : List Char → List Setting → Prop where
  | empty {left inside right : List Char} (before : Blank left) (blank : Blank inside)
      (after : Blank right) : ArrayText (left ++ '[' :: (inside ++ ']' :: right)) []
  | values {left text right : List Char} {settings : List Setting} (before : Blank left)
      (values : Listed Writes text settings) (after : Blank right) :
      ArrayText (left ++ '[' :: (text ++ ']' :: right)) settings

/-- The draft with one more setting. -/
def Draft.put (draft : Draft) : Setting → Draft
  | .text field value => draft.setText field value
  | .peers values => draft.setPeers values
  | .count field value => draft.setCount field value.toNat

def Draft.enter (draft : Draft) (setting : Setting) : Outcome Draft :=
  if draft.has setting.field then .error (.duplicate setting.field) else .ok (draft.put setting)

variable {text rest : List Char} {draft : Draft} {state : State} {place : Place} {setting : Setting}
  {settings : List Setting} {field : Field}

theorem Draft.has_put (draft : Draft) (setting : Setting) (field : Field) :
    (draft.put setting).has field = true ↔ field = setting.field ∨ draft.has field = true := by
  cases setting with
  | text other value =>
    cases field with
    | text field => by_cases same : field = other <;> simp [put, has, setText, Setting.field, same]
    | peers => simp [put, has, setText, Setting.field]
    | count field => simp [put, has, setText, Setting.field]
  | peers values => cases field <;> simp [put, has, setPeers, Setting.field]
  | count other value =>
    cases field with
    | text field => simp [put, has, setCount, Setting.field]
    | peers => simp [put, has, setCount, Setting.field]
    | count field =>
      by_cases same : field = other <;> simp [put, has, setCount, Setting.field, same]

theorem Draft.value_put (draft : Draft) (setting : Setting) (field : Field) :
    (draft.put setting).config.value field =
      if field = setting.field then setting.value else draft.config.value field := by
  cases setting with
  | peers values => rcases field with (_ | _) | _ | (_ | _ | _ | _ | _) <;> rfl
  | text other value => cases other <;> rcases field with (_ | _) | _ | (_ | _ | _ | _ | _) <;> rfl
  | count other value => cases other <;> rcases field with (_ | _) | _ | (_ | _ | _ | _ | _) <;> rfl

namespace Draft

theorem has_foldl (settings : List Setting) (draft : Draft) (field : Field) :
    (settings.foldl put draft).has field = true ↔
      field ∈ settings.map Setting.field ∨ draft.has field = true := by
  induction settings generalizing draft with
  | nil => simp
  | cons setting settings ih =>
    rw [List.foldl_cons, ih, has_put, List.map_cons, List.mem_cons, or_left_comm, or_assoc]

theorem value_foldl_of_not_mem (absent : field ∉ settings.map Setting.field) (draft : Draft) :
    (settings.foldl put draft).config.value field = draft.config.value field := by
  induction settings generalizing draft with
  | nil => rfl
  | cons setting settings ih =>
    rw [List.map_cons, List.mem_cons, not_or] at absent
    rw [List.foldl_cons, ih absent.2, value_put, if_neg absent.1]

theorem value_foldl_of_mem (distinct : (settings.map Setting.field).Nodup)
    (member : setting ∈ settings) (draft : Draft) :
    (settings.foldl put draft).config.value setting.field = setting.value := by
  induction settings generalizing draft with
  | nil => nomatch member
  | cons first settings ih =>
    rw [List.map_cons, List.nodup_cons] at distinct
    rw [List.foldl_cons]
    rcases List.mem_cons.mp member with rfl | later
    · rw [value_foldl_of_not_mem distinct.1, value_put, if_pos rfl]
    · exact ih distinct.2 later _

theorem settles (distinct : (settings.map Setting.field).Nodup) :
    (settings.foldl put {}).config.Settles settings where
  given setting member := value_foldl_of_mem distinct member {}
  default field absent := by
    apply value_foldl_of_not_mem
    intro member
    obtain ⟨setting, given, same⟩ := List.mem_map.mp member
    exact absent setting given same

theorem enter_all (distinct : (settings.map Setting.field).Nodup) {draft : Draft}
    (fresh : ∀ setting ∈ settings, draft.has setting.field = false) :
    settings.foldlM enter draft = .ok (settings.foldl put draft) := by
  induction settings generalizing draft with
  | nil => rfl
  | cons setting settings ih =>
    rw [List.map_cons, List.nodup_cons] at distinct
    have entered : draft.enter setting = .ok (draft.put setting) := by
      rw [enter, fresh setting List.mem_cons_self]
      rfl
    rw [List.foldlM_cons, entered]
    refine ih distinct.2 fun other member => ?_
    rw [← Bool.not_eq_true, has_put, not_or, Bool.not_eq_true]
    refine ⟨fun same => distinct.1 (same ▸ List.mem_map_of_mem member), ?_⟩
    exact fresh other (List.mem_cons_of_mem _ member)

theorem enter_distinct (distinct : (settings.map Setting.field).Nodup) :
    settings.foldlM enter {} = .ok (settings.foldl put {}) := by
  refine enter_all distinct fun setting _ => ?_
  cases setting.field <;> rfl

theorem enter_again {before after : List Setting} (distinct : (before.map Setting.field).Nodup)
    (again : setting.field ∈ before.map Setting.field) :
    (before ++ setting :: after).foldlM enter {} = .error (.duplicate setting.field) := by
  have held := (has_foldl before {} setting.field).mpr (.inl again)
  have refused : (before.foldl put {}).enter setting = .error (.duplicate setting.field) := by
    rw [enter, if_pos held]
  rw [List.foldlM_append, enter_distinct distinct]
  simp only [bind, Except.bind, List.foldlM_cons, refused]

end Draft

/-- Where a value of a field is due. -/
def Awaits (state : State) (draft : Draft) (place : Place) (field : Field) : Prop :=
  ∀ token, token ≠ .closeBracket → step state token = settingValue draft place field token

/-- Where a peer is due behind those read so far. -/
def AwaitsPeer (state : State) (draft : Draft) (place : Place) (peers : List String) : Prop :=
  ∀ value form, step state (.text (.ok value) form) = .ok (.nextPeer draft place (value :: peers))

/-- Where the name of a member is due. -/
def AwaitsName (state : State) (draft : Draft) : Prop :=
  ∀ value form, step state (.text value form) = memberName draft (.text value form)

theorem WritesText.consume {value : String} (written : WritesText text value) (state : State)
    (rest : List Char) :
    consume state (text ++ rest) =
      step state (.text (.ok value) (.ok ())) >>= (Config.consume · rest) := by
  obtain ⟨spells⟩ := written
  rw [List.cons_append, List.append_assoc, List.singleton_append, consume_text spells.toBody,
    spells.read]
  simp only [Except.map, String.ofList_toList]

theorem reads_peers {values : List String} (listed : Listed WritesText text values)
    {peers : List String} (awaits : AwaitsPeer state draft place peers) :
    Reads text state (.nextPeer draft place (values.reverse ++ peers)) := by
  induction listed generalizing state peers with
  | last before written after =>
    intro rest apart
    rw [List.append_assoc, List.append_assoc, consume_blank before, written.consume, awaits]
    exact consume_blank after _ _
  | more before written after others ih =>
    intro rest apart
    simp only [List.append_assoc, List.cons_append]
    rw [consume_blank before, written.consume, awaits]
    refine (consume_blank after _ _).trans ?_
    refine (consume_token (by decide) rfl rfl).trans ?_
    refine (ih (fun _ _ => rfl) rest apart).trans ?_
    rw [List.reverse_cons, List.append_assoc]
    rfl

theorem Writes.reads (written : Writes text setting)
    (awaits : Awaits state draft place setting.field) :
    Reads text state (.next (draft.put setting) place) := by
  cases written with
  | text written =>
    intro rest apart
    rw [written.consume, awaits _ (by simp)]
    rfl
  | noPeers blank =>
    intro rest apart
    rw [List.cons_append, List.append_assoc, List.singleton_append]
    refine (consume_token (by decide) rfl (awaits _ (by simp))).trans ?_
    refine (consume_blank blank _ _).trans ?_
    exact consume_token (by decide) rfl rfl
  | peers listed =>
    intro rest apart
    rw [List.cons_append, List.append_assoc, List.singleton_append]
    refine (consume_token (by decide) rfl (awaits _ (by simp))).trans ?_
    refine (reads_peers listed (fun _ _ => rfl) _ (Json.apart_of_mark (by simp))).trans ?_
    refine (consume_token (by decide) rfl rfl).trans ?_
    rw [List.append_nil, List.reverse_reverse]
    rfl
  | count whole same =>
    intro rest apart
    have small : Nat.ofDigitChars 10 text 0 ≤ Json.Number.limit := by
      rw [same]
      exact Nat.le_of_lt_succ (UInt64.toNat_lt _)
    rw [consume_number whole.numeral apart, Json.Number.read_whole whole small apart,
      awaits _ (by simp), same]
    rfl

theorem ofName?_name (field : Field) : Field.ofName? field.name = some field := by
  rcases field with (_ | _) | _ | (_ | _ | _ | _ | _) <;> decide

theorem ofName?_unknown {name : List Char} (unknown : ∀ field : Field, field.name.toList ≠ name) :
    Field.ofName? (String.ofList name) = none := by
  refine List.find?_eq_none.mpr fun field _ => ?_
  simp only [decide_eq_true_eq]
  intro same
  exact unknown field (by rw [same, String.toList_ofList])

theorem memberName_setting (draft : Draft) (setting : Setting) (form : Except Json.Fault Unit) :
    memberName draft (.text (.ok setting.field.name) form) =
      if draft.has setting.field then .error (.duplicate setting.field)
      else .ok (.colon draft (some setting.field)) := by
  simp only [memberName, lift, Except.mapError, bind, Except.bind, ofName?_name]
  rfl

theorem memberName_unknown {name : List Char}
    (unknown : ∀ field : Field, field.name.toList ≠ name) (draft : Draft)
    (form : Except Json.Fault Unit) :
    memberName draft (.text (.ok (String.ofList name)) form) = .ok (.colon draft none) := by
  simp only [memberName, lift, Except.mapError, bind, Except.bind, ofName?_unknown unknown]
  rfl

/-- A setting is entered or refused at its name; another member is passed over. -/
theorem consume_member {given : Option Setting} (member : Member text given)
    (awaits : AwaitsName state draft) (apart : Apart rest) :
    consume state (text ++ rest) =
      given.toList.foldlM Draft.enter draft >>= fun draft =>
        consume (.next draft .members) rest := by
  cases member with
  | @setting _ _ _ _ _ _ setting before name after ahead written behind =>
    simp only [List.append_assoc, List.cons_append]
    rw [consume_blank before, consume_text name.toBody, name.read, awaits]
    simp only [Except.map, String.ofList_toList, memberName_setting, Option.toList_some,
      List.foldlM_cons, List.foldlM_nil, Draft.enter]
    split
    next => rfl
    next =>
      refine (consume_blank after _ _).trans ?_
      refine (consume_token (by decide) rfl rfl).trans ?_
      refine (consume_blank ahead _ _).trans ?_
      refine (written.reads (fun _ _ => rfl) _ (apart.blank behind)).trans ?_
      exact consume_blank behind _ _
  | other before spells unknown after element =>
    simp only [List.append_assoc, List.cons_append]
    rw [consume_blank before, consume_text spells.toBody, spells.read, awaits]
    simp only [Except.map, memberName_unknown unknown]
    refine (consume_blank after _ _).trans ?_
    refine (consume_token (by decide) rfl rfl).trans ?_
    exact passes element draft .value [] (.inl rfl) rest apart

theorem consume_members (members : Members text settings) (awaits : AwaitsName state draft)
    (apart : Apart rest) :
    consume state (text ++ rest) =
      settings.foldlM Draft.enter draft >>= fun draft => consume (.next draft .members) rest := by
  induction members generalizing state draft with
  | last member => exact consume_member member awaits apart
  | more member others ih =>
    rw [List.append_assoc, List.cons_append,
      consume_member member awaits (Json.apart_of_mark (by simp)), List.foldlM_append, bind_assoc]
    refine bind_congr fun entered => ?_
    refine (consume_token (by decide) rfl rfl).trans ?_
    exact ih (fun _ _ => rfl)

theorem read_object {text : String} (object : ObjectText text.toList settings) :
    read text = (settings.foldlM Draft.enter {}).map Draft.config := by
  have done : consume .document text.toList =
      settings.foldlM Draft.enter {} >>= fun draft => .ok (.complete draft) := by
    generalize text.toList = text at object
    cases object with
    | empty before blank after =>
      rw [consume_blank before]
      refine (consume_token (by decide) rfl rfl).trans ?_
      refine (consume_blank blank _ _).trans ?_
      refine (consume_token (by decide) rfl rfl).trans ?_
      exact consume_blanks after _
    | members before members after =>
      rw [consume_blank before]
      refine (consume_token (by decide) rfl rfl).trans ?_
      refine (consume_members members (fun _ _ => rfl) (Json.apart_of_mark (by simp))).trans ?_
      refine bind_congr fun entered => ?_
      exact (consume_token (by decide) rfl rfl).trans (consume_blanks after _)
  change consume .document text.toList >>= finish = _
  rw [done]
  cases settings.foldlM Draft.enter {} <;> rfl

/-- Where the first of some values is due in an array. -/
def AwaitsValues (state : State) (draft : Draft) : List Field → Prop
  | [] => False
  | field :: following => Awaits state draft (.elements following) field

theorem reads_values {following : List Field} (listed : Listed Writes text settings)
    (ordered : settings.map Setting.field <+: following)
    (awaits : AwaitsValues state draft following) :
    ∃ others, Reads text state (.next (settings.foldl Draft.put draft) (.elements others)) := by
  induction listed generalizing state draft following with
  | last before written after =>
    cases following with
    | nil => exact awaits.elim
    | cons field following =>
      obtain ⟨rfl, _⟩ := List.cons_prefix_cons.mp ordered
      refine ⟨following, fun rest apart => ?_⟩
      rw [List.append_assoc, List.append_assoc, consume_blank before,
        written.reads awaits _ (apart.blank after), consume_blank after]
      rfl
  | @more _ _ _ _ first items before written after others ih =>
    cases following with
    | nil => exact awaits.elim
    | cons field following =>
      obtain ⟨rfl, later⟩ := List.cons_prefix_cons.mp ordered
      cases following with
      | nil =>
        obtain rfl := List.map_eq_nil_iff.mp (List.prefix_nil.mp later)
        nomatch others
      | cons field following =>
        have next : AwaitsValues (.value (draft.put first) (.elements following) field)
            (draft.put first) (field :: following) := fun _ _ => rfl
        obtain ⟨left, reads⟩ := ih later next
        refine ⟨left, fun rest apart => ?_⟩
        simp only [List.append_assoc, List.cons_append]
        rw [consume_blank before]
        refine (written.reads awaits _ ((Json.apart_of_mark (by simp)).blank after)).trans ?_
        refine (consume_blank after _ _).trans ?_
        exact (consume_token (by decide) rfl rfl).trans (reads rest apart)

theorem read_array {text : String} (array : ArrayText text.toList settings)
    (ordered : settings.map Setting.field <+: Field.all) :
    read text = .ok (settings.foldl Draft.put {}).config := by
  have done : consume .document text.toList = .ok (.complete (settings.foldl Draft.put {})) := by
    generalize text.toList = text at array
    cases array with
    | empty before blank after =>
      rw [consume_blank before]
      refine (consume_token (by decide) rfl rfl).trans ?_
      refine (consume_blank blank _ _).trans ?_
      refine (consume_token (by decide) rfl rfl).trans ?_
      exact consume_blanks after _
    | values before values after =>
      rw [consume_blank before]
      refine (consume_token (by decide) rfl rfl).trans ?_
      have awaits : AwaitsValues .firstElement {} Field.all := by
        intro token stays
        cases token <;> first | rfl | exact absurd rfl stays
      obtain ⟨others, reads⟩ := reads_values values ordered awaits
      refine (reads _ (Json.apart_of_mark (by simp))).trans ?_
      refine (consume_token (by decide) rfl ?_).trans (consume_blanks after _)
      cases others <;> rfl
  change consume .document text.toList >>= finish = _
  rw [done]
  rfl

theorem ext_value {config other : Config} (same : ∀ field, config.value field = other.value field) :
    config = other := by
  have addr : config.addr = other.addr := Value.text.inj (same (.text .addr))
  have peers : config.peers = other.peers := Value.peers.inj (same .peers)
  have basePath : config.basePath = other.basePath := Value.text.inj (same (.text .basePath))
  have replicas : config.replicas = other.replicas := Value.count.inj (same (.count .replicas))
  have fetchTimeoutMs : config.fetchTimeoutMs = other.fetchTimeoutMs :=
    Value.count.inj (same (.count .fetchTimeoutMs))
  have cacheBytes : config.cacheBytes = other.cacheBytes :=
    Value.count.inj (same (.count .cacheBytes))
  have historyBytes : config.historyBytes = other.historyBytes :=
    Value.count.inj (same (.count .historyBytes))
  have admissionK : config.admissionK = other.admissionK :=
    Value.count.inj (same (.count .admissionK))
  cases config
  cases other
  rw [Config.mk.injEq]
  exact ⟨addr, peers, basePath, replicas, fetchTimeoutMs, cacheBytes, historyBytes, admissionK⟩

theorem Settles.unique {config other : Config} {listed : List Setting}
    (settles : config.Settles settings) (again : other.Settles listed)
    (reordered : listed.Perm settings) : config = other := by
  refine ext_value fun field => ?_
  by_cases given : ∃ setting ∈ settings, setting.field = field
  · obtain ⟨setting, member, rfl⟩ := given
    rw [settles.given setting member, again.given setting (reordered.mem_iff.mpr member)]
  · have absent : ∀ setting ∈ settings, setting.field ≠ field :=
      fun setting member same => given ⟨setting, member, same⟩
    rw [settles.default field absent,
      again.default field fun setting member => absent setting (reordered.mem_iff.mp member)]

/-- A field that occurs twice has a first occurrence that is not the first of its field. -/
theorem exists_again (repeated : ¬ (settings.map Setting.field).Nodup) :
    ∃ before setting after, settings = before ++ setting :: after ∧
      (before.map Setting.field).Nodup ∧ setting.field ∈ before.map Setting.field := by
  induction settings using List.reverseRecOn with
  | nil => exact absurd List.nodup_nil repeated
  | append_singleton first last ih =>
    by_cases distinct : (first.map Setting.field).Nodup
    · refine ⟨first, last, [], rfl, distinct, ?_⟩
      by_contra fresh
      apply repeated
      rw [List.map_append, List.map_singleton, List.nodup_append]
      refine ⟨distinct, List.nodup_cons.mpr ⟨List.not_mem_nil, List.nodup_nil⟩, ?_⟩
      rintro field member _ (_ | ⟨_, ⟨⟩⟩) rfl
      exact fresh member
    · obtain ⟨before, setting, after, rfl, alone, again⟩ := ih distinct
      exact ⟨before, setting, after ++ [last], by simp, alone, again⟩

/-- Some settings have one configuration for all documents that give them, in whatever order and
among whatever other members an object lists them, and as the first values of an array. An object
that gives a field again is refused for the first field that it gives again. -/
theorem partial_document :
    (∀ settings : List Setting, (settings.map Setting.field).Nodup →
      ∃ config : Config, config.Settles settings ∧
        (∀ (text : String) (listed : List Setting), listed.Perm settings →
          ObjectText text.toList listed → read text = .ok config) ∧
        ∀ (text : String) (listed : List Setting) (count : Nat), listed.Perm settings →
          listed.map Setting.field = Field.all.take count →
          ArrayText text.toList listed → read text = .ok config) ∧
    ∀ (text : String) (listed : List Setting), ObjectText text.toList listed →
      ¬ (listed.map Setting.field).Nodup →
      ∃ before setting after, listed = before ++ setting :: after ∧
        (before.map Setting.field).Nodup ∧ setting.field ∈ before.map Setting.field ∧
        read text = .error (.duplicate setting.field) := by
  constructor
  · intro settings distinct
    refine ⟨(settings.foldl Draft.put {}).config, Draft.settles distinct, ?_, ?_⟩
    · intro text listed reordered object
      have alone := ((reordered.map Setting.field).nodup_iff).mpr distinct
      rw [read_object object, Draft.enter_distinct alone,
        (Draft.settles distinct).unique (Draft.settles alone) reordered]
      rfl
    · intro text listed count reordered ordered array
      have alone := ((reordered.map Setting.field).nodup_iff).mpr distinct
      rw [read_array array (ordered ▸ List.take_prefix count _),
        (Draft.settles distinct).unique (Draft.settles alone) reordered]
  · intro text listed object repeated
    obtain ⟨before, setting, after, rfl, alone, again⟩ := exists_again repeated
    refine ⟨before, setting, after, rfl, alone, again, ?_⟩
    rw [read_object object, Draft.enter_again alone again]
    rfl

/-- An escaped name behind an unknown member gives what an array gives, and a second name is
refused. -/
theorem partial_document_addr : ∃ config : Config,
    config.value (.text .addr) = .text "a" ∧ config.value .peers = .peers [] ∧
    read "\x7b\"x\":[1e5],\"\\u0061ddr\":\"a\"\x7d" = .ok config ∧
    read "[ \"a\"]" = .ok config ∧
    read "\x7b\"addr\":\"a\",\"addr\":\"a\"\x7d" = .error (.duplicate (.text .addr)) := by
  let address : Setting := .text .addr "a"
  have nothing : Blank [] := fun _ member => nomatch member
  have space : Blank [' '] := by simp [Blank]
  have bare (char : Char) (letter : char ∈ ['a', 'd', 'r', 'x']) : Json.Bare char := by
    simp only [List.mem_cons, List.not_mem_nil, or_false] at letter
    rcases letter with rfl | rfl | rfl | rfl <;> exact ⟨by decide, by decide, by decide⟩
  have tail : Spells ['d', 'd', 'r'] ['d', 'd', 'r'] :=
    .bare (bare _ (by simp)) (.bare (bare _ (by simp)) (.bare (bare _ (by simp)) .nil))
  have label : address.field.name.toList = ['a', 'd', 'd', 'r'] := by
    change "addr".toList = _
    rfl
  have plain : Spells ['a', 'd', 'd', 'r'] address.field.name.toList :=
    label ▸ .bare (bare _ (by simp)) tail
  have quad : Json.Quad ['0', '0', '6', '1'] 0x61 :=
    @Json.Quad.digits '0' '0' '6' '1' 0 0 6 1 rfl rfl rfl rfl
  have escaped :
      Spells ['\\', 'u', '0', '0', '6', '1', 'd', 'd', 'r'] address.field.name.toList :=
    label ▸ .unit quad (.inl (by decide)) tail
  have letter : Spells ['a'] "a".toList := .bare (bare 'a' (by simp)) .nil
  have written : Writes ['"', 'a', '"'] address := .text (@WritesText.quoted ['a'] "a" letter)
  have number : Json.Numeral ['1', 'e', '5'] :=
    @Json.Numeral.parts [] ['1'] [] ['e', '5'] (by simp) ⟨⟨by simp, by simp⟩, by simp⟩ .none
      (@Json.Exponent.digits 'e' [] ['5'] (by simp) (by simp) ⟨by simp, by simp⟩)
  have element : Form .element ['1', 'e', '5'] :=
    @Form.element [] _ [] nothing (.number number) nothing
  have array : Form .element ['[', '1', 'e', '5', ']'] :=
    @Form.element [] _ [] nothing (.array (.lastElement element)) nothing
  have unknown : ∀ field : Field, field.name.toList ≠ ['x'] := by
    rintro ((_ | _) | _ | (_ | _ | _ | _ | _)) <;> decide
  have other : Member ['"', 'x', '"', ':', '[', '1', 'e', '5', ']'] none :=
    @Member.other [] ['x'] ['x'] [] _ nothing (.bare (bare _ (by simp)) .nil) unknown nothing array
  have first :=
    @Member.setting [] _ [] [] _ [] address nothing escaped nothing nothing written nothing
  have again :=
    @Member.setting [] _ [] [] _ [] address nothing plain nothing nothing written nothing
  obtain ⟨meaning, duplicates⟩ := partial_document
  obtain ⟨config, settles, objects, arrays⟩ := meaning [address] (by simp)
  have defaulted := settles.default .peers (by simp [address, Setting.field])
  refine ⟨config, settles.given address (by simp), defaulted, ?_, ?_, ?_⟩
  · refine objects _ [address] (.refl _) ?_
    exact @ObjectText.members [] _ [] _ nothing (.more other (.last first)) nothing
  · refine arrays _ [address] 1 (.refl _) rfl ?_
    have value := @Listed.last _ Writes [' '] _ [] address space written nothing
    exact @ArrayText.values [] _ [] _ nothing value nothing
  · obtain ⟨before, setting, after, same, _, repeated, refused⟩ := duplicates
      "\x7b\"addr\":\"a\",\"addr\":\"a\"\x7d" [address, address]
      (@ObjectText.members [] _ [] _ nothing (.more again (.last again)) nothing) (by simp)
    have given : setting = address := by
      have member : setting ∈ [address, address] := same ▸ by simp
      simpa using member
    rw [refused, given]
    rfl

end ReadThrough.Config
