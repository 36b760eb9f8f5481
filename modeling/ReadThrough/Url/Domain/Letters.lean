import ReadThrough.Unicode.Table

/-! What letters outside ASCII become in a domain name: the lower case forms of their
script, the letters that raised and joined forms stand for, and nothing for those that have
no shape. Symbols, ideographs and presentation forms have tables of their own. -/

namespace ReadThrough.Domain

def letters : Unicode.Table := .ofText "
  00A0=0020 00A8=0020.0308 00AA=0061 00AD 00AF=0020.0304 00B2-00B3=0032 00B4=0020.0301 00B5=03BC
  00B8=0020.0327 00B9=0031 00BA=006F 00BC=0031.2044.0034 00BD=0031.2044.0032 00BE=0033.2044.0034
  00C0-00D6=00E0 00D8-00DE=00F8 0100=0101 0102=0103 0104=0105 0106=0107 0108=0109 010A=010B
  010C=010D 010E=010F 0110=0111 0112=0113 0114=0115 0116=0117 0118=0119 011A=011B 011C=011D
  011E=011F 0120=0121 0122=0123 0124=0125 0126=0127 0128=0129 012A=012B 012C=012D 012E=012F
  0130=0069.0307 0132=0069.006A 0133=0069.006A 0134=0135 0136=0137 0139=013A 013B=013C 013D=013E
  013F=006C.00B7 0140=006C.00B7 0141=0142 0143=0144 0145=0146 0147=0148 0149=02BC.006E 014A=014B
  014C=014D 014E=014F 0150=0151 0152=0153 0154=0155 0156=0157 0158=0159 015A=015B 015C=015D
  015E=015F 0160=0161 0162=0163 0164=0165 0166=0167 0168=0169 016A=016B 016C=016D 016E=016F
  0170=0171 0172=0173 0174=0175 0176=0177 0178=00FF 0179=017A 017B=017C 017D=017E 017F=0073
  0181=0253 0182=0183 0184=0185 0186=0254 0187=0188 0189-018A=0256 018B=018C 018E=01DD 018F=0259
  0190=025B 0191=0192 0193=0260 0194=0263 0196=0269 0197=0268 0198=0199 019C=026F 019D=0272
  019F=0275 01A0=01A1 01A2=01A3 01A4=01A5 01A6=0280 01A7=01A8 01A9=0283 01AC=01AD 01AE=0288
  01AF=01B0 01B1-01B2=028A 01B3=01B4 01B5=01B6 01B7=0292 01B8=01B9 01BC=01BD 01C4=0064.017E
  01C5=0064.017E 01C6=0064.017E 01C7=006C.006A 01C8=006C.006A 01C9=006C.006A 01CA=006E.006A
  01CB=006E.006A 01CC=006E.006A 01CD=01CE 01CF=01D0 01D1=01D2 01D3=01D4 01D5=01D6 01D7=01D8
  01D9=01DA 01DB=01DC 01DE=01DF 01E0=01E1 01E2=01E3 01E4=01E5 01E6=01E7 01E8=01E9 01EA=01EB
  01EC=01ED 01EE=01EF 01F1=0064.007A 01F2=0064.007A 01F3=0064.007A 01F4=01F5 01F6=0195 01F7=01BF
  01F8=01F9 01FA=01FB 01FC=01FD 01FE=01FF 0200=0201 0202=0203 0204=0205 0206=0207 0208=0209
  020A=020B 020C=020D 020E=020F 0210=0211 0212=0213 0214=0215 0216=0217 0218=0219 021A=021B
  021C=021D 021E=021F 0220=019E 0222=0223 0224=0225 0226=0227 0228=0229 022A=022B 022C=022D
  022E=022F 0230=0231 0232=0233 023A=2C65 023B=023C 023D=019A 023E=2C66 0241=0242 0243=0180
  0244=0289 0245=028C 0246=0247 0248=0249 024A=024B 024C=024D 024E=024F 02B0=0068 02B1=0266
  02B2=006A 02B3=0072 02B4=0279 02B5=027B 02B6=0281 02B7=0077 02B8=0079 02D8=0020.0306
  02D9=0020.0307 02DA=0020.030A 02DB=0020.0328 02DC=0020.0303 02DD=0020.030B 02E0=0263 02E1=006C
  02E2=0073 02E3=0078 02E4=0295 0340-0341=0300 0343=0313 0344=0308.0301 0345=03B9 034F 0370=0371
  0372=0373 0374=02B9 0376=0377 037A=0020.03B9 037E=003B 037F=03F3 0384=0020.0301
  0385=0020.0308.0301 0386=03AC 0387=00B7 0388-038A=03AD 038C=03CC 038E-038F=03CD 0391-03A1=03B1
  03A3-03AB=03C3 03CF=03D7 03D0=03B2 03D1=03B8 03D2=03C5 03D3=03CD 03D4=03CB 03D5=03C6 03D6=03C0
  03D8=03D9 03DA=03DB 03DC=03DD 03DE=03DF 03E0=03E1 03E2=03E3 03E4=03E5 03E6=03E7 03E8=03E9
  03EA=03EB 03EC=03ED 03EE=03EF 03F0=03BA 03F1=03C1 03F2=03C3 03F4=03B8 03F5=03B5 03F7=03F8
  03F9=03C3 03FA=03FB 03FD-03FF=037B 0400-040F=0450 0410-042F=0430 0460=0461 0462=0463 0464=0465
  0466=0467 0468=0469 046A=046B 046C=046D 046E=046F 0470=0471 0472=0473 0474=0475 0476=0477
  0478=0479 047A=047B 047C=047D 047E=047F 0480=0481 048A=048B 048C=048D 048E=048F 0490=0491
  0492=0493 0494=0495 0496=0497 0498=0499 049A=049B 049C=049D 049E=049F 04A0=04A1 04A2=04A3
  04A4=04A5 04A6=04A7 04A8=04A9 04AA=04AB 04AC=04AD 04AE=04AF 04B0=04B1 04B2=04B3 04B4=04B5
  04B6=04B7 04B8=04B9 04BA=04BB 04BC=04BD 04BE=04BF 04C0=04CF 04C1=04C2 04C3=04C4 04C5=04C6
  04C7=04C8 04C9=04CA 04CB=04CC 04CD=04CE 04D0=04D1 04D2=04D3 04D4=04D5 04D6=04D7 04D8=04D9
  04DA=04DB 04DC=04DD 04DE=04DF 04E0=04E1 04E2=04E3 04E4=04E5 04E6=04E7 04E8=04E9 04EA=04EB
  04EC=04ED 04EE=04EF 04F0=04F1 04F2=04F3 04F4=04F5 04F6=04F7 04F8=04F9 04FA=04FB 04FC=04FD
  04FE=04FF 0500=0501 0502=0503 0504=0505 0506=0507 0508=0509 050A=050B 050C=050D 050E=050F
  0510=0511 0512=0513 0514=0515 0516=0517 0518=0519 051A=051B 051C=051D 051E=051F 0520=0521
  0522=0523 0524=0525 0526=0527 0528=0529 052A=052B 052C=052D 052E=052F 0531-0556=0561
  0587=0565.0582 0675=0627.0674 0676=0648.0674 0677=06C7.0674 0678=064A.0674 0958-095A=0915.093C
  095B=091C.093C 095C-095D=0921.093C 095E=092B.093C 095F=092F.093C 09DC-09DD=09A1.09BC
  09DF=09AF.09BC 0A33=0A32.0A3C 0A36=0A38.0A3C 0A59-0A5A=0A16.0A3C 0A5B=0A1C.0A3C 0A5E=0A2B.0A3C
  0B5C-0B5D=0B21.0B3C 0E33=0E4D.0E32 0EB3=0ECD.0EB2 0EDC=0EAB.0E99 0EDD=0EAB.0EA1 0F0C=0F0B
  0F43=0F42.0FB7 0F4D=0F4C.0FB7 0F52=0F51.0FB7 0F57=0F56.0FB7 0F5C=0F5B.0FB7 0F69=0F40.0FB5
  0F73=0F71.0F72 0F75=0F71.0F74 0F76=0FB2.0F80 0F77=0FB2.0F71.0F80 0F78=0FB3.0F80
  0F79=0FB3.0F71.0F80 0F81=0F71.0F80 0F93=0F92.0FB7 0F9D=0F9C.0FB7 0FA2=0FA1.0FB7 0FA7=0FA6.0FB7
  0FAC=0FAB.0FB7 0FB9=0F90.0FB5 10A0-10C5=2D00 10C7=2D27 10CD=2D2D 10FC=10DC 115F-1160
  13F8-13FD=13F0 17B4-17B5 180B-180F 1C80=0432 1C81=0434 1C82=043E 1C83-1C84=0441 1C85=0442
  1C86=044A 1C87=0463 1C88=A64B 1C89=1C8A 1C90-1CBA=10D0 1CBD-1CBF=10FD 1D2C=0061 1D2D=00E6
  1D2E=0062 1D30-1D31=0064 1D32=01DD 1D33-1D3A=0067 1D3C=006F 1D3D=0223 1D3E=0070 1D3F=0072
  1D40-1D41=0074 1D42=0077 1D43=0061 1D44-1D45=0250 1D46=1D02 1D47=0062 1D48-1D49=0064 1D4A=0259
  1D4B-1D4C=025B 1D4D=0067 1D4F=006B 1D50=006D 1D51=014B 1D52=006F 1D53=0254 1D54-1D55=1D16
  1D56=0070 1D57-1D58=0074 1D59=1D1D 1D5A=026F 1D5B=0076 1D5C=1D25 1D5D-1D5F=03B2 1D60-1D61=03C6
  1D62=0069 1D63=0072 1D64-1D65=0075 1D66-1D67=03B2 1D68=03C1 1D69-1D6A=03C6 1D78=043D 1D9B=0252
  1D9C=0063 1D9D=0255 1D9E=00F0 1D9F=025C 1DA0=0066 1DA1=025F 1DA2=0261 1DA3=0265 1DA4-1DA6=0268
  1DA7=1D7B 1DA8=029D 1DA9=026D 1DAA=1D85 1DAB=029F 1DAC=0271 1DAD=0270 1DAE-1DB1=0272 1DB2=0278
  1DB3-1DB4=0282 1DB5=01AB 1DB6-1DB7=0289 1DB8=1D1C 1DB9-1DBA=028B 1DBB=007A 1DBC-1DBE=0290
  1DBF=03B8 1E00=1E01 1E02=1E03 1E04=1E05 1E06=1E07 1E08=1E09 1E0A=1E0B 1E0C=1E0D 1E0E=1E0F
  1E10=1E11 1E12=1E13 1E14=1E15 1E16=1E17 1E18=1E19 1E1A=1E1B 1E1C=1E1D 1E1E=1E1F 1E20=1E21
  1E22=1E23 1E24=1E25 1E26=1E27 1E28=1E29 1E2A=1E2B 1E2C=1E2D 1E2E=1E2F 1E30=1E31 1E32=1E33
  1E34=1E35 1E36=1E37 1E38=1E39 1E3A=1E3B 1E3C=1E3D 1E3E=1E3F 1E40=1E41 1E42=1E43 1E44=1E45
  1E46=1E47 1E48=1E49 1E4A=1E4B 1E4C=1E4D 1E4E=1E4F 1E50=1E51 1E52=1E53 1E54=1E55 1E56=1E57
  1E58=1E59 1E5A=1E5B 1E5C=1E5D 1E5E=1E5F 1E60=1E61 1E62=1E63 1E64=1E65 1E66=1E67 1E68=1E69
  1E6A=1E6B 1E6C=1E6D 1E6E=1E6F 1E70=1E71 1E72=1E73 1E74=1E75 1E76=1E77 1E78=1E79 1E7A=1E7B
  1E7C=1E7D 1E7E=1E7F 1E80=1E81 1E82=1E83 1E84=1E85 1E86=1E87 1E88=1E89 1E8A=1E8B 1E8C=1E8D
  1E8E=1E8F 1E90=1E91 1E92=1E93 1E94=1E95 1E9A=0061.02BE 1E9B=1E61 1E9E=00DF 1EA0=1EA1 1EA2=1EA3
  1EA4=1EA5 1EA6=1EA7 1EA8=1EA9 1EAA=1EAB 1EAC=1EAD 1EAE=1EAF 1EB0=1EB1 1EB2=1EB3 1EB4=1EB5
  1EB6=1EB7 1EB8=1EB9 1EBA=1EBB 1EBC=1EBD 1EBE=1EBF 1EC0=1EC1 1EC2=1EC3 1EC4=1EC5 1EC6=1EC7
  1EC8=1EC9 1ECA=1ECB 1ECC=1ECD 1ECE=1ECF 1ED0=1ED1 1ED2=1ED3 1ED4=1ED5 1ED6=1ED7 1ED8=1ED9
  1EDA=1EDB 1EDC=1EDD 1EDE=1EDF 1EE0=1EE1 1EE2=1EE3 1EE4=1EE5 1EE6=1EE7 1EE8=1EE9 1EEA=1EEB
  1EEC=1EED 1EEE=1EEF 1EF0=1EF1 1EF2=1EF3 1EF4=1EF5 1EF6=1EF7 1EF8=1EF9 1EFA=1EFB 1EFC=1EFD
  1EFE=1EFF 1F08-1F0F=1F00 1F18-1F1D=1F10 1F28-1F2F=1F20 1F38-1F3F=1F30 1F48-1F4D=1F40 1F59=1F51
  1F5B=1F53 1F5D=1F55 1F5F=1F57 1F68-1F6F=1F60 1F71=03AC 1F73=03AD 1F75=03AE 1F77=03AF 1F79=03CC
  1F7B=03CD 1F7D=03CE 1F80-1F87=1F00.03B9 1F88-1F8F=1F00.03B9 1F90-1F97=1F20.03B9
  1F98-1F9F=1F20.03B9 1FA0-1FA7=1F60.03B9 1FA8-1FAF=1F60.03B9 1FB2=1F70.03B9 1FB3=03B1.03B9
  1FB4=03AC.03B9 1FB7=1FB6.03B9 1FB8-1FB9=1FB0 1FBA=1F70 1FBB=03AC 1FBC=03B1.03B9 1FBD=0020.0313
  1FBE=03B9 1FBF=0020.0313 1FC0=0020.0342 1FC1=0020.0308.0342 1FC2=1F74.03B9 1FC3=03B7.03B9
  1FC4=03AE.03B9 1FC7=1FC6.03B9 1FC8=1F72 1FC9=03AD 1FCA=1F74 1FCB=03AE 1FCC=03B7.03B9
  1FCD=0020.0313.0300 1FCE=0020.0313.0301 1FCF=0020.0313.0342 1FD3=0390 1FD8-1FD9=1FD0 1FDA=1F76
  1FDB=03AF 1FDD=0020.0314.0300 1FDE=0020.0314.0301 1FDF=0020.0314.0342 1FE3=03B0 1FE8-1FE9=1FE0
  1FEA=1F7A 1FEB=03CD 1FEC=1FE5 1FED=0020.0308.0300 1FEE=0020.0308.0301 1FEF=0060 1FF2=1F7C.03B9
  1FF3=03C9.03B9 1FF4=03CE.03B9 1FF7=1FF6.03B9 1FF8=1F78 1FF9=03CC 1FFA=1F7C 1FFB=03CE
  1FFC=03C9.03B9 1FFD=0020.0301 1FFE=0020.0314 A640=A641 A642=A643 A644=A645 A646=A647 A648=A649
  A64A=A64B A64C=A64D A64E=A64F A650=A651 A652=A653 A654=A655 A656=A657 A658=A659 A65A=A65B
  A65C=A65D A65E=A65F A660=A661 A662=A663 A664=A665 A666=A667 A668=A669 A66A=A66B A66C=A66D
  A680=A681 A682=A683 A684=A685 A686=A687 A688=A689 A68A=A68B A68C=A68D A68E=A68F A690=A691
  A692=A693 A694=A695 A696=A697 A698=A699 A69A=A69B A69C=044A A69D=044C A722=A723 A724=A725
  A726=A727 A728=A729 A72A=A72B A72C=A72D A72E=A72F A732=A733 A734=A735 A736=A737 A738=A739
  A73A=A73B A73C=A73D A73E=A73F A740=A741 A742=A743 A744=A745 A746=A747 A748=A749 A74A=A74B
  A74C=A74D A74E=A74F A750=A751 A752=A753 A754=A755 A756=A757 A758=A759 A75A=A75B A75C=A75D
  A75E=A75F A760=A761 A762=A763 A764=A765 A766=A767 A768=A769 A76A=A76B A76C=A76D A76E=A76F
  A770=A76F A779=A77A A77B=A77C A77D=1D79 A77E=A77F A780=A781 A782=A783 A784=A785 A786=A787
  A78B=A78C A78D=0265 A790=A791 A792=A793 A796=A797 A798=A799 A79A=A79B A79C=A79D A79E=A79F
  A7A0=A7A1 A7A2=A7A3 A7A4=A7A5 A7A6=A7A7 A7A8=A7A9 A7AA=0266 A7AB=025C A7AC=0261 A7AD=026C
  A7AE=026A A7B0=029E A7B1=0287 A7B2=029D A7B3=AB53 A7B4=A7B5 A7B6=A7B7 A7B8=A7B9 A7BA=A7BB
  A7BC=A7BD A7BE=A7BF A7C0=A7C1 A7C2=A7C3 A7C4=A794 A7C5=0282 A7C6=1D8E A7C7=A7C8 A7C9=A7CA
  A7CB=0264 A7CC=A7CD A7CE=A7CF A7D0=A7D1 A7D2=A7D3 A7D4=A7D5 A7D6=A7D7 A7D8=A7D9 A7DA=A7DB
  A7DC=019B A7F1=0073 A7F2=0063 A7F3=0066 A7F4=0071 A7F5=A7F6 A7F8=0127 A7F9=0153 AB5C=A727
  AB5D=AB37 AB5E=026B AB5F=AB52 AB69=028D AB70-ABBF=13A0 10400-10427=10428 104B0-104D3=104D8
  10570-1057A=10597 1057C-1058A=105A3 1058C-10592=105B3 10594-10595=105BB 10781-10782=02D0
  10783=00E6 10784=0299 10785=0253 10787=02A3 10788=AB66 10789=02A5 1078A=02A4 1078B-1078C=0256
  1078D=1D91 1078E=0258 1078F=025E 10790=02A9 10791=0264 10792=0262 10793=0260 10794=029B
  10795=0127 10796=029C 10797=0267 10798=0284 10799-1079A=02AA 1079B=026C 1079C=1DF04 1079D=A78E
  1079E=026E 1079F=1DF05 107A0=028E 107A1=1DF06 107A2=00F8 107A3-107A4=0276 107A5=0071 107A6=027A
  107A7=1DF08 107A8-107A9=027D 107AA=0280 107AB=02A8 107AC=02A6 107AD=AB67 107AE=02A7 107AF=0288
  107B0=2C71 107B2=028F 107B3-107B4=02A1 107B5=0298 107B6-107B8=01C0 107B9=1DF0A 107BA=1DF1E
  10C80-10CB2=10CC0 10D50-10D65=10D70 118A0-118BF=118C0 16E40-16E5F=16E60 16EA0-16EB8=16EBB
  1E030-1E038=0430 1E039-1E03B=043A 1E03C-1E046=043E 1E047=044B 1E048-1E049=044D 1E04A=A689
  1E04B=04D9 1E04C=0456 1E04D=0458 1E04E=04E9 1E04F=04AF 1E050=04CF 1E051-1E059=0430
  1E05A-1E05B=043A 1E05C-1E05D=043E 1E05E=0441 1E05F-1E064=0443 1E065-1E066=044A 1E067=0491
  1E068=0456 1E069=0455 1E06A=045F 1E06B=04AB 1E06C=A651 1E06D=04B1 1E900-1E921=1E922"

end ReadThrough.Domain
