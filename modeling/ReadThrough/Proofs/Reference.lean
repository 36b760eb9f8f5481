import ReadThrough.Cache.Basic
import Mathlib.Algebra.Ring.Nat

/-! The rules of the cache on two plain lists: the main queue with the most recently used entry
first, the history with the oldest waiting key first. There are no slots, no index and no
running counts, so every rule can be read off directly. -/

namespace ReadThrough

namespace Cache

variable {α : Type}

def Waiting.entry (waiting : Waiting α) : String × α := (waiting.key, waiting.value)

/-- The entries of all other keys. -/
def without (key : String) (entries : List (String × α)) : List (String × α) :=
  entries.filter (·.1 != key)

section

variable [ByteSized α]

def charge (entry : String × α) : Nat := entrySize entry.1 entry.2

def weight (entries : List (String × α)) : Nat := (entries.map charge).sum

end

/-- A budget of zero is never exceeded. -/
def exceeds (budget held : Nat) : Bool := budget != 0 && budget < held

/-- Drops items from the front while what is left exceeds the budget; hands back the dropped
items and the rest. -/
def trim {β : Type} (size : β → Nat) (budget : Nat) : List β → List β × List β
  | [] => ([], [])
  | item :: rest =>
    if exceeds budget ((item :: rest).map size).sum then
      let trimmed := trim size budget rest
      (item :: trimmed.1, trimmed.2)
    else ([], item :: rest)

/-- What a cache is created with and never changes. -/
structure Limits where
  maxBytes : Nat
  historyMaxBytes : Nat
  threshold : Nat

structure Reference (α : Type) extends Limits where
  main : List (String × α) := []
  history : List (Waiting α) := []

namespace Reference

/-- A threshold of zero counts as one. -/
def new (maxBytes historyMaxBytes threshold : Nat) : Reference α :=
  { maxBytes, historyMaxBytes, threshold := max threshold 1 }

def keys (reference : Reference α) : List String := reference.main.map (·.1)

def historyKeys (reference : Reference α) : List String := reference.history.map (·.key)

/-- Everything that is stored, in whichever queue. -/
def held (reference : Reference α) : List (String × α) :=
  reference.main ++ reference.history.map Waiting.entry

def waiting? (reference : Reference α) (key : String) : Option (Waiting α) :=
  reference.history.find? (·.key == key)

variable [ByteSized α]

/-- Drops main entries from the tail while they exceed the budget. -/
def settleMain (reference : Reference α) : Evicted α × Reference α :=
  let trimmed := trim charge reference.maxBytes reference.main.reverse
  (trimmed.1, { reference with main := trimmed.2.reverse })

/-- Drops waiting entries from the head while they exceed the budget. -/
def settleHistory (reference : Reference α) : Evicted α × Reference α :=
  let trimmed := trim (charge ·.entry) reference.historyMaxBytes reference.history
  (trimmed.1.map Waiting.entry, { reference with history := trimmed.2 })

/-- Takes a key out of where it is and puts it at the head of the main queue. -/
def enterMain (reference : Reference α) (key : String) (value : α) : Evicted α × Reference α :=
  { reference with
    main := (key, value) :: without key reference.main
    history := reference.history.filter (·.key != key) }.settleMain

/-- Takes a key out of where it waits and puts it at the end of the history. -/
def enterHistory (reference : Reference α) (waiting : Waiting α) : Reference α :=
  { reference with history := reference.history.filter (·.key != waiting.key) ++ [waiting] }

def get (reference : Reference α) (key : String) : Option α × Evicted α × Reference α :=
  match reference.main.lookup key with
  | some value => (some value, reference.enterMain key value)
  | none =>
    match reference.waiting? key with
    | none => (none, [], reference)
    | some waiting =>
      if reference.threshold ≤ waiting.hits + 1 then
        (some waiting.value, reference.enterMain key waiting.value)
      else
        (some waiting.value, [],
          reference.enterHistory { waiting with hits := waiting.hits + 1 })

/-- The observations of a key including the one under way. -/
def observations (reference : Reference α) (key : String) : Nat :=
  match reference.waiting? key with
  | some waiting => waiting.hits + 1
  | none => 1

/-- Promotes a key that is still waiting and has reached the threshold. -/
def promoteReady (reference : Reference α) (key : String) : Evicted α × Reference α :=
  match reference.waiting? key with
  | some waiting =>
    if reference.threshold ≤ waiting.hits then reference.enterMain key waiting.value
    else ([], reference)
  | none => ([], reference)

def add (reference : Reference α) (key : String) (value : α) : Evicted α × Reference α :=
  match reference.main.lookup key with
  | some _ => reference.enterMain key value
  | none =>
    let hits := reference.observations key
    let settled := (reference.enterHistory { key, value, hits }).settleHistory
    let ready := settled.2.promoteReady key
    (settled.1 ++ ready.1, ready.2)

/-- Drops the main tail. -/
def removeOldest (reference : Reference α) : Evicted α × Reference α :=
  match reference.main.getLast? with
  | some entry => ([entry], { reference with main := reference.main.dropLast })
  | none => ([], reference)

/-- Drops the history head. -/
def removeHistoryOldest (reference : Reference α) : Evicted α × Reference α :=
  match reference.history with
  | waiting :: rest => ([waiting.entry], { reference with history := rest })
  | [] => ([], reference)

def apply (reference : Reference α) : Operation α → Option α × Evicted α × Reference α
  | .add key value => (none, reference.add key value)
  | .get key => reference.get key
  | .removeOldest => (none, reference.removeOldest)
  | .removeHistoryOldest => (none, reference.removeHistoryOldest)

/-- What every call of a sequence hands back and drops, and the lists after the last one. -/
def trace (reference : Reference α) :
    List (Operation α) → List (Option α × Evicted α) × Reference α
  | [] => ([], reference)
  | operation :: operations =>
    let outcome := reference.apply operation
    let rest := outcome.2.2.trace operations
    ((outcome.1, outcome.2.1) :: rest.1, rest.2)

end Reference

end Cache

end ReadThrough
