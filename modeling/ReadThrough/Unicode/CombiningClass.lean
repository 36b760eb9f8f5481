import ReadThrough.Unicode.Table

/-! Canonical combining classes. Two marks of different classes do not touch each other, so
their order means nothing; class zero is that of characters which marks stand on. -/

namespace ReadThrough.Unicode.CombiningClass

/-- The classes other than zero, in hexadecimal. -/
def table : Table := .ofText "
  0300-0314=E6 0315=E8 0316-0319=DC 031A=E8 031B=D8 031C-0320=DC 0321-0322=CA 0323-0326=DC
  0327-0328=CA 0329-0333=DC 0334-0338=1 0339-033C=DC 033D-0344=E6 0345=F0 0346=E6 0347-0349=DC
  034A-034C=E6 034D-034E=DC 0350-0352=E6 0353-0356=DC 0357=E6 0358=E8 0359-035A=DC 035B=E6 035C=E9
  035D-035E=EA 035F=E9 0360-0361=EA 0362=E9 0363-036F=E6 0483-0487=E6 0591=DC 0592-0595=E6 0596=DC
  0597-0599=E6 059A=DE 059B=DC 059C-05A1=E6 05A2-05A7=DC 05A8-05A9=E6 05AA=DC 05AB-05AC=E6 05AD=DE
  05AE=E4 05AF=E6 05B0=A 05B1=B 05B2=C 05B3=D 05B4=E 05B5=F 05B6=10 05B7=11 05B8=12 05B9-05BA=13
  05BB=14 05BC=15 05BD=16 05BF=17 05C1=18 05C2=19 05C4=E6 05C5=DC 05C7=12 0610-0617=E6 0618=1E
  0619=1F 061A=20 064B=1B 064C=1C 064D=1D 064E=1E 064F=1F 0650=20 0651=21 0652=22 0653-0654=E6
  0655-0656=DC 0657-065B=E6 065C=DC 065D-065E=E6 065F=DC 0670=23 06D6-06DC=E6 06DF-06E2=E6 06E3=DC
  06E4=E6 06E7-06E8=E6 06EA=DC 06EB-06EC=E6 06ED=DC 0711=24 0730=E6 0731=DC 0732-0733=E6 0734=DC
  0735-0736=E6 0737-0739=DC 073A=E6 073B-073C=DC 073D=E6 073E=DC 073F-0741=E6 0742=DC 0743=E6
  0744=DC 0745=E6 0746=DC 0747=E6 0748=DC 0749-074A=E6 07EB-07F1=E6 07F2=DC 07F3=E6 07FD=DC
  0816-0819=E6 081B-0823=E6 0825-0827=E6 0829-082D=E6 0859-085B=DC 0897-0898=E6 0899-089B=DC
  089C-089F=E6 08CA-08CE=E6 08CF-08D3=DC 08D4-08E1=E6 08E3=DC 08E4-08E5=E6 08E6=DC 08E7-08E8=E6
  08E9=DC 08EA-08EC=E6 08ED-08EF=DC 08F0=1B 08F1=1C 08F2=1D 08F3-08F5=E6 08F6=DC 08F7-08F8=E6
  08F9-08FA=DC 08FB-08FF=E6 093C=7 094D=9 0951=E6 0952=DC 0953-0954=E6 09BC=7 09CD=9 09FE=E6
  0A3C=7 0A4D=9 0ABC=7 0ACD=9 0B3C=7 0B4D=9 0BCD=9 0C3C=7 0C4D=9 0C55=54 0C56=5B 0CBC=7 0CCD=9
  0D3B-0D3C=9 0D4D=9 0DCA=9 0E38-0E39=67 0E3A=9 0E48-0E4B=6B 0EB8-0EB9=76 0EBA=9 0EC8-0ECB=7A
  0F18-0F19=DC 0F35=DC 0F37=DC 0F39=D8 0F71=81 0F72=82 0F74=84 0F7A-0F7D=82 0F80=82 0F82-0F83=E6
  0F84=9 0F86-0F87=E6 0FC6=DC 1037=7 1039-103A=9 108D=DC 135D-135F=E6 1714-1715=9 1734=9 17D2=9
  17DD=E6 18A9=E4 1939=DE 193A=E6 193B=DC 1A17=E6 1A18=DC 1A60=9 1A75-1A7C=E6 1A7F=DC 1AB0-1AB4=E6
  1AB5-1ABA=DC 1ABB-1ABC=E6 1ABD=DC 1ABF-1AC0=DC 1AC1-1AC2=E6 1AC3-1AC4=DC 1AC5-1AC9=E6 1ACA=DC
  1ACB-1ADC=E6 1ADD=DC 1AE0-1AE5=E6 1AE6=DC 1AE7-1AEA=E6 1AEB=EA 1B34=7 1B44=9 1B6B=E6 1B6C=DC
  1B6D-1B73=E6 1BAA-1BAB=9 1BE6=7 1BF2-1BF3=9 1C37=7 1CD0-1CD2=E6 1CD4=1 1CD5-1CD9=DC 1CDA-1CDB=E6
  1CDC-1CDF=DC 1CE0=E6 1CE2-1CE8=1 1CED=DC 1CF4=E6 1CF8-1CF9=E6 1DC0-1DC1=E6 1DC2=DC 1DC3-1DC9=E6
  1DCA=DC 1DCB-1DCC=E6 1DCD=EA 1DCE=D6 1DCF=DC 1DD0=CA 1DD1-1DF5=E6 1DF6=E8 1DF7-1DF8=E4 1DF9=DC
  1DFA=DA 1DFB=E6 1DFC=E9 1DFD=DC 1DFE=E6 1DFF=DC 20D0-20D1=E6 20D2-20D3=1 20D4-20D7=E6
  20D8-20DA=1 20DB-20DC=E6 20E1=E6 20E5-20E6=1 20E7=E6 20E8=DC 20E9=E6 20EA-20EB=1 20EC-20EF=DC
  20F0=E6 2CEF-2CF1=E6 2D7F=9 2DE0-2DFF=E6 302A=DA 302B=E4 302C=E8 302D=DE 302E-302F=E0
  3099-309A=8 A66F=E6 A674-A67D=E6 A69E-A69F=E6 A6F0-A6F1=E6 A806=9 A82C=9 A8C4=9 A8E0-A8F1=E6
  A92B-A92D=DC A953=9 A9B3=7 A9C0=9 AAB0=E6 AAB2-AAB3=E6 AAB4=DC AAB7-AAB8=E6 AABE-AABF=E6 AAC1=E6
  AAF6=9 ABED=9 FB1E=1A FE20-FE26=E6 FE27-FE2D=DC FE2E-FE2F=E6 101FD=DC 102E0=DC 10376-1037A=E6
  10A0D=DC 10A0F=E6 10A38=E6 10A39=1 10A3A=DC 10A3F=9 10AE5=E6 10AE6=DC 10D24-10D27=E6
  10D69-10D6D=E6 10EAB-10EAC=E6 10EFA-10EFB=DC 10EFD-10EFF=DC 10F46-10F47=DC 10F48-10F4A=E6
  10F4B=DC 10F4C=E6 10F4D-10F50=DC 10F82=E6 10F83=DC 10F84=E6 10F85=DC 11046=9 11070=9 1107F=9
  110B9=9 110BA=7 11100-11102=E6 11133-11134=9 11173=7 111C0=9 111CA=7 11235=9 11236=7 112E9=7
  112EA=9 1133B-1133C=7 1134D=9 11366-1136C=E6 11370-11374=E6 113CE-113D0=9 11442=9 11446=7
  1145E=E6 114C2=9 114C3=7 115BF=9 115C0=7 1163F=9 116B6=9 116B7=7 1172B=9 11839=9 1183A=7
  1193D-1193E=9 11943=7 119E0=9 11A34=9 11A47=9 11A99=9 11C3F=9 11D42=7 11D44-11D45=9 11D97=9
  11F41-11F42=9 1612F=9 16AF0-16AF4=1 16B30-16B36=E6 16FF0-16FF1=6 1BC9E=1 1D165-1D166=D8
  1D167-1D169=1 1D16D=E2 1D16E-1D172=D8 1D17B-1D182=DC 1D185-1D189=E6 1D18A-1D18B=DC
  1D1AA-1D1AD=E6 1D242-1D244=E6 1E000-1E006=E6 1E008-1E018=E6 1E01B-1E021=E6 1E023-1E024=E6
  1E026-1E02A=E6 1E08F=E6 1E130-1E136=E6 1E2AE=E6 1E2EC-1E2EF=E6 1E4EC-1E4ED=E8 1E4EE=DC 1E4EF=E6
  1E5EE=E6 1E5EF=DC 1E6E3=E6 1E6E6=E6 1E6EE-1E6EF=E6 1E6F5=E6 1E8D0-1E8D6=DC 1E944-1E949=E6
  1E94A=7"

/-- The first code with a class other than zero. -/
def firstMark : Nat := 0x300

def ofCode (code : Nat) : Nat :=
  if code < firstMark then 0 else ((table.find? code).bind (·.codes.head?)).getD 0

/-- The class of the signs that take the vowel from a letter of the scripts of India. -/
def virama : Nat := 9

end ReadThrough.Unicode.CombiningClass
