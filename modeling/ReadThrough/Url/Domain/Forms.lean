import ReadThrough.Unicode.Table

/-! What presentation forms become in a domain name: the letters of ligatures and of the
shapes that letters take within a word, the plain forms of wide and narrow characters, and
nothing for the selectors among such forms. -/

namespace ReadThrough.Domain

def forms : Unicode.Table := .ofText "
  FB00=0066.0066 FB01=0066.0069 FB02=0066.006C FB03=0066.0066.0069 FB04=0066.0066.006C
  FB05=0073.0074 FB06=0073.0074 FB13=0574.0576 FB14=0574.0565 FB15=0574.056B FB16=057E.0576
  FB17=0574.056D FB1D=05D9.05B4 FB1F=05F2.05B7 FB20=05E2 FB21=05D0 FB22-FB23=05D3 FB24-FB26=05DB
  FB27=05E8 FB28=05EA FB29=002B FB2A=05E9.05C1 FB2B=05E9.05C2 FB2C=05E9.05BC.05C1
  FB2D=05E9.05BC.05C2 FB2E=05D0.05B7 FB2F=05D0.05B8 FB30-FB36=05D0.05BC FB38-FB3C=05D8.05BC
  FB3E=05DE.05BC FB40-FB41=05E0.05BC FB43-FB44=05E3.05BC FB46-FB4A=05E6.05BC FB4B=05D5.05B9
  FB4C=05D1.05BF FB4D=05DB.05BF FB4E=05E4.05BF FB4F=05D0.05DC FB50=0671 FB51=0671 FB52=067B
  FB53=067B FB54=067B FB55=067B FB56=067E FB57=067E FB58=067E FB59=067E FB5A=0680 FB5B=0680
  FB5C=0680 FB5D=0680 FB5E=067A FB5F=067A FB60=067A FB61=067A FB62=067F FB63=067F FB64=067F
  FB65=067F FB66=0679 FB67=0679 FB68=0679 FB69=0679 FB6A=06A4 FB6B=06A4 FB6C=06A4 FB6D=06A4
  FB6E=06A6 FB6F=06A6 FB70=06A6 FB71=06A6 FB72=0684 FB73=0684 FB74=0684 FB75=0684 FB76=0683
  FB77=0683 FB78=0683 FB79=0683 FB7A=0686 FB7B=0686 FB7C=0686 FB7D-FB7E=0686 FB7F=0687 FB80=0687
  FB81=0687 FB82=068D FB83=068D FB84=068C FB85=068C FB86=068E FB87=068E FB88=0688 FB89=0688
  FB8A=0698 FB8B=0698 FB8C=0691 FB8D=0691 FB8E=06A9 FB8F=06A9 FB90=06A9 FB91=06A9 FB92=06AF
  FB93=06AF FB94=06AF FB95=06AF FB96=06B3 FB97=06B3 FB98=06B3 FB99=06B3 FB9A=06B1 FB9B=06B1
  FB9C=06B1 FB9D=06B1 FB9E=06BA FB9F-FBA0=06BA FBA1=06BB FBA2=06BB FBA3=06BB FBA4=06C0
  FBA5-FBA6=06C0 FBA7=06C1 FBA8=06C1 FBA9=06C1 FBAA=06BE FBAB=06BE FBAC=06BE FBAD=06BE FBAE=06D2
  FBAF-FBB0=06D2 FBB1=06D3 FBD3=06AD FBD4=06AD FBD5=06AD FBD6=06AD FBD7=06C7 FBD8=06C7 FBD9=06C6
  FBDA=06C6 FBDB=06C8 FBDC=06C8 FBDD=06C7.0674 FBDE=06CB FBDF=06CB FBE0=06C5 FBE1=06C5 FBE2=06C9
  FBE3=06C9 FBE4=06D0 FBE5=06D0 FBE6=06D0 FBE7=06D0 FBE8=0649 FBE9=0649 FBEA=0626.0627
  FBEB=0626.0627 FBEC=0626.06D5 FBED=0626.06D5 FBEE=0626.0648 FBEF=0626.0648 FBF0=0626.06C7
  FBF1=0626.06C7 FBF2=0626.06C6 FBF3=0626.06C6 FBF4=0626.06C8 FBF5=0626.06C8 FBF6=0626.06D0
  FBF7=0626.06D0 FBF8=0626.06D0 FBF9=0626.0649 FBFA=0626.0649 FBFB=0626.0649 FBFC=06CC FBFD=06CC
  FBFE=06CC FBFF=06CC FC00=0626.062C FC01=0626.062D FC02=0626.0645 FC03=0626.0649 FC04=0626.064A
  FC05=0628.062C FC06=0628.062D FC07=0628.062E FC08=0628.0645 FC09=0628.0649 FC0A=0628.064A
  FC0B=062A.062C FC0C=062A.062D FC0D=062A.062E FC0E=062A.0645 FC0F=062A.0649 FC10=062A.064A
  FC11=062B.062C FC12=062B.0645 FC13=062B.0649 FC14=062B.064A FC15=062C.062D FC16=062C.0645
  FC17=062D.062C FC18=062D.0645 FC19=062E.062C FC1A=062E.062D FC1B=062E.0645 FC1C=0633.062C
  FC1D=0633.062D FC1E=0633.062E FC1F=0633.0645 FC20=0635.062D FC21=0635.0645 FC22=0636.062C
  FC23=0636.062D FC24=0636.062E FC25=0636.0645 FC26=0637.062D FC27-FC28=0637.0645 FC29=0639.062C
  FC2A=0639.0645 FC2B=063A.062C FC2C=063A.0645 FC2D=0641.062C FC2E=0641.062D FC2F=0641.062E
  FC30=0641.0645 FC31=0641.0649 FC32=0641.064A FC33=0642.062D FC34=0642.0645 FC35=0642.0649
  FC36=0642.064A FC37=0643.0627 FC38=0643.062C FC39=0643.062D FC3A=0643.062E FC3B=0643.0644
  FC3C=0643.0645 FC3D=0643.0649 FC3E=0643.064A FC3F=0644.062C FC40=0644.062D FC41=0644.062E
  FC42=0644.0645 FC43=0644.0649 FC44=0644.064A FC45=0645.062C FC46=0645.062D FC47=0645.062E
  FC48=0645.0645 FC49=0645.0649 FC4A=0645.064A FC4B=0646.062C FC4C=0646.062D FC4D=0646.062E
  FC4E=0646.0645 FC4F=0646.0649 FC50=0646.064A FC51=0647.062C FC52=0647.0645 FC53=0647.0649
  FC54=0647.064A FC55=064A.062C FC56=064A.062D FC57=064A.062E FC58=064A.0645 FC59=064A.0649
  FC5A=064A.064A FC5B-FC5C=0630.0670 FC5D=0649.0670 FC5E=0020.064C.0651 FC5F=0020.064D.0651
  FC60=0020.064E.0651 FC61=0020.064F.0651 FC62=0020.0650.0651 FC63=0020.0651.0670 FC64=0626.0631
  FC65=0626.0632 FC66=0626.0645 FC67=0626.0646 FC68=0626.0649 FC69=0626.064A FC6A=0628.0631
  FC6B=0628.0632 FC6C=0628.0645 FC6D=0628.0646 FC6E=0628.0649 FC6F=0628.064A FC70=062A.0631
  FC71=062A.0632 FC72=062A.0645 FC73=062A.0646 FC74=062A.0649 FC75=062A.064A FC76=062B.0631
  FC77=062B.0632 FC78=062B.0645 FC79=062B.0646 FC7A=062B.0649 FC7B=062B.064A FC7C=0641.0649
  FC7D=0641.064A FC7E=0642.0649 FC7F=0642.064A FC80=0643.0627 FC81=0643.0644 FC82=0643.0645
  FC83=0643.0649 FC84=0643.064A FC85=0644.0645 FC86=0644.0649 FC87=0644.064A FC88=0645.0627
  FC89=0645.0645 FC8A=0646.0631 FC8B=0646.0632 FC8C=0646.0645 FC8D=0646.0646 FC8E=0646.0649
  FC8F=0646.064A FC90=0649.0670 FC91=064A.0631 FC92=064A.0632 FC93=064A.0645 FC94=064A.0646
  FC95=064A.0649 FC96=064A.064A FC97=0626.062C FC98=0626.062D FC99=0626.062E FC9A=0626.0645
  FC9B=0626.0647 FC9C=0628.062C FC9D=0628.062D FC9E=0628.062E FC9F=0628.0645 FCA0=0628.0647
  FCA1=062A.062C FCA2=062A.062D FCA3=062A.062E FCA4=062A.0645 FCA5=062A.0647 FCA6=062B.0645
  FCA7=062C.062D FCA8=062C.0645 FCA9=062D.062C FCAA=062D.0645 FCAB=062E.062C FCAC=062E.0645
  FCAD=0633.062C FCAE=0633.062D FCAF=0633.062E FCB0=0633.0645 FCB1=0635.062D FCB2=0635.062E
  FCB3=0635.0645 FCB4=0636.062C FCB5=0636.062D FCB6=0636.062E FCB7=0636.0645 FCB8=0637.062D
  FCB9=0638.0645 FCBA=0639.062C FCBB=0639.0645 FCBC=063A.062C FCBD=063A.0645 FCBE=0641.062C
  FCBF=0641.062D FCC0=0641.062E FCC1=0641.0645 FCC2=0642.062D FCC3=0642.0645 FCC4=0643.062C
  FCC5=0643.062D FCC6=0643.062E FCC7=0643.0644 FCC8=0643.0645 FCC9=0644.062C FCCA=0644.062D
  FCCB=0644.062E FCCC=0644.0645 FCCD=0644.0647 FCCE=0645.062C FCCF=0645.062D FCD0=0645.062E
  FCD1=0645.0645 FCD2=0646.062C FCD3=0646.062D FCD4=0646.062E FCD5=0646.0645 FCD6=0646.0647
  FCD7=0647.062C FCD8=0647.0645 FCD9=0647.0670 FCDA=064A.062C FCDB=064A.062D FCDC=064A.062E
  FCDD=064A.0645 FCDE=064A.0647 FCDF=0626.0645 FCE0=0626.0647 FCE1=0628.0645 FCE2=0628.0647
  FCE3=062A.0645 FCE4=062A.0647 FCE5=062B.0645 FCE6=062B.0647 FCE7=0633.0645 FCE8=0633.0647
  FCE9=0634.0645 FCEA=0634.0647 FCEB=0643.0644 FCEC-FCED=0643.0645 FCEE=0646.0645 FCEF=0646.0647
  FCF0=064A.0645 FCF1=064A.0647 FCF2=0640.064E.0651 FCF3=0640.064F.0651 FCF4=0640.0650.0651
  FCF5=0637.0649 FCF6=0637.064A FCF7=0639.0649 FCF8=0639.064A FCF9=063A.0649 FCFA=063A.064A
  FCFB=0633.0649 FCFC=0633.064A FCFD=0634.0649 FCFE=0634.064A FCFF=062D.0649 FD00=062D.064A
  FD01=062C.0649 FD02=062C.064A FD03=062E.0649 FD04=062E.064A FD05=0635.0649 FD06=0635.064A
  FD07=0636.0649 FD08=0636.064A FD09=0634.062C FD0A=0634.062D FD0B=0634.062E FD0C=0634.0645
  FD0D=0634.0631 FD0E=0633.0631 FD0F-FD10=0635.0631 FD11=0637.0649 FD12=0637.064A FD13=0639.0649
  FD14=0639.064A FD15=063A.0649 FD16=063A.064A FD17=0633.0649 FD18=0633.064A FD19=0634.0649
  FD1A=0634.064A FD1B=062D.0649 FD1C=062D.064A FD1D=062C.0649 FD1E=062C.064A FD1F=062E.0649
  FD20=062E.064A FD21=0635.0649 FD22=0635.064A FD23=0636.0649 FD24=0636.064A FD25=0634.062C
  FD26=0634.062D FD27=0634.062E FD28=0634.0645 FD29=0634.0631 FD2A=0633.0631 FD2B-FD2C=0635.0631
  FD2D=0634.062C FD2E=0634.062D FD2F=0634.062E FD30=0634.0645 FD31-FD32=0633.0647 FD33=0637.0645
  FD34=0633.062C FD35=0633.062D FD36=0633.062E FD37=0634.062C FD38=0634.062D FD39=0634.062E
  FD3A-FD3B=0637.0645 FD3C=0627.064B FD3D=0627.064B FD50=062A.062C.0645 FD51=062A.062D.062C
  FD52=062A.062D.062C FD53=062A.062D.0645 FD54=062A.062E.0645 FD55=062A.0645.062C
  FD56=062A.0645.062D FD57=062A.0645.062E FD58=062C.0645.062D FD59=062C.0645.062D
  FD5A=062D.0645.064A FD5B=062D.0645.0649 FD5C=0633.062D.062C FD5D=0633.062C.062D
  FD5E=0633.062C.0649 FD5F=0633.0645.062D FD60=0633.0645.062D FD61=0633.0645.062C
  FD62=0633.0645.0645 FD63=0633.0645.0645 FD64=0635.062D.062D FD65=0635.062D.062D
  FD66=0635.0645.0645 FD67=0634.062D.0645 FD68=0634.062D.0645 FD69=0634.062C.064A
  FD6A=0634.0645.062E FD6B=0634.0645.062E FD6C=0634.0645.0645 FD6D=0634.0645.0645
  FD6E=0636.062D.0649 FD6F=0636.062E.0645 FD70=0636.062E.0645 FD71=0637.0645.062D
  FD72=0637.0645.062D FD73=0637.0645.0645 FD74=0637.0645.064A FD75=0639.062C.0645
  FD76=0639.0645.0645 FD77=0639.0645.0645 FD78=0639.0645.0649 FD79=063A.0645.0645
  FD7A=063A.0645.064A FD7B=063A.0645.0649 FD7C=0641.062E.0645 FD7D=0641.062E.0645
  FD7E=0642.0645.062D FD7F=0642.0645.0645 FD80=0644.062D.0645 FD81=0644.062D.064A
  FD82=0644.062D.0649 FD83=0644.062C.062C FD84=0644.062C.062C FD85=0644.062E.0645
  FD86=0644.062E.0645 FD87=0644.0645.062D FD88=0644.0645.062D FD89=0645.062D.062C
  FD8A=0645.062D.0645 FD8B=0645.062D.064A FD8C=0645.062C.062D FD8D=0645.062C.0645
  FD8E=0645.062E.062C FD8F=0645.062E.0645 FD92=0645.062C.062E FD93=0647.0645.062C
  FD94=0647.0645.0645 FD95=0646.062D.0645 FD96=0646.062D.0649 FD97=0646.062C.0645
  FD98=0646.062C.0645 FD99=0646.062C.0649 FD9A=0646.0645.064A FD9B=0646.0645.0649
  FD9C=064A.0645.0645 FD9D=064A.0645.0645 FD9E=0628.062E.064A FD9F=062A.062C.064A
  FDA0=062A.062C.0649 FDA1=062A.062E.064A FDA2=062A.062E.0649 FDA3=062A.0645.064A
  FDA4=062A.0645.0649 FDA5=062C.0645.064A FDA6=062C.062D.0649 FDA7=062C.0645.0649
  FDA8=0633.062E.0649 FDA9=0635.062D.064A FDAA=0634.062D.064A FDAB=0636.062D.064A
  FDAC=0644.062C.064A FDAD=0644.0645.064A FDAE=064A.062D.064A FDAF=064A.062C.064A
  FDB0=064A.0645.064A FDB1=0645.0645.064A FDB2=0642.0645.064A FDB3=0646.062D.064A
  FDB4=0642.0645.062D FDB5=0644.062D.0645 FDB6=0639.0645.064A FDB7=0643.0645.064A
  FDB8=0646.062C.062D FDB9=0645.062E.064A FDBA=0644.062C.0645 FDBB=0643.0645.0645
  FDBC=0644.062C.0645 FDBD=0646.062C.062D FDBE=062C.062D.064A FDBF=062D.062C.064A
  FDC0=0645.062C.064A FDC1=0641.0645.064A FDC2=0628.062D.064A FDC3=0643.0645.0645
  FDC4=0639.062C.0645 FDC5=0635.0645.0645 FDC6=0633.062E.064A FDC7=0646.062C.064A
  FDF0=0635.0644.06D2 FDF1=0642.0644.06D2 FDF2=0627.0644.0644.0647 FDF3=0627.0643.0628.0631
  FDF4=0645.062D.0645.062F FDF5=0635.0644.0639.0645 FDF6=0631.0633.0648.0644
  FDF7=0639.0644.064A.0647 FDF8=0648.0633.0644.0645 FDF9=0635.0644.0649
  FDFA=0635.0644.0649.0020.0627.0644.0644.0647.0020.0639.0644.064A.0647.0020.0648.0633.0644.0645
  FDFB=062C.0644.0020.062C.0644.0627.0644.0647 FDFC=0631.06CC.0627.0644 FE00-FE0F FE10=002C
  FE11=3001 FE13-FE14=003A FE15=0021 FE16=003F FE17-FE18=3016 FE31=2014 FE32=2013 FE33=005F
  FE34=005F FE35-FE36=0028 FE37=007B FE38=007D FE39-FE3A=3014 FE3B-FE3C=3010 FE3D-FE3E=300A
  FE3F-FE40=3008 FE41-FE44=300C FE47=005B FE48=005D FE49=0020.0305 FE4A=0020.0305 FE4B=0020.0305
  FE4C=0020.0305 FE4D=005F FE4E=005F FE4F=005F FE50=002C FE51=3001 FE54=003B FE55=003A FE56=003F
  FE57=0021 FE58=2014 FE59-FE5A=0028 FE5B=007B FE5C=007D FE5D-FE5E=3014 FE5F=0023 FE60=0026
  FE61-FE62=002A FE63=002D FE64=003C FE65=003E FE66=003D FE68=005C FE69-FE6A=0024 FE6B=0040
  FE70=0020.064B FE71=0640.064B FE72=0020.064C FE74=0020.064D FE76=0020.064E FE77=0640.064E
  FE78=0020.064F FE79=0640.064F FE7A=0020.0650 FE7B=0640.0650 FE7C=0020.0651 FE7D=0640.0651
  FE7E=0020.0652 FE7F=0640.0652 FE80-FE81=0621 FE82-FE83=0622 FE84-FE85=0623 FE86-FE87=0624
  FE88-FE89=0625 FE8A=0626 FE8B=0626 FE8C-FE8D=0626 FE8E-FE8F=0627 FE90=0628 FE91=0628
  FE92-FE93=0628 FE94-FE95=0629 FE96=062A FE97=062A FE98-FE99=062A FE9A=062B FE9B=062B
  FE9C-FE9D=062B FE9E=062C FE9F=062C FEA0-FEA1=062C FEA2=062D FEA3=062D FEA4-FEA5=062D FEA6=062E
  FEA7=062E FEA8-FEA9=062E FEAA-FEAB=062F FEAC-FEAD=0630 FEAE-FEAF=0631 FEB0-FEB1=0632 FEB2=0633
  FEB3=0633 FEB4-FEB5=0633 FEB6=0634 FEB7=0634 FEB8-FEB9=0634 FEBA=0635 FEBB=0635 FEBC-FEBD=0635
  FEBE=0636 FEBF=0636 FEC0-FEC1=0636 FEC2=0637 FEC3=0637 FEC4-FEC5=0637 FEC6=0638 FEC7=0638
  FEC8-FEC9=0638 FECA=0639 FECB=0639 FECC-FECD=0639 FECE=063A FECF=063A FED0=063A FED1=0641
  FED2=0641 FED3=0641 FED4-FED5=0641 FED6=0642 FED7=0642 FED8-FED9=0642 FEDA=0643 FEDB=0643
  FEDC-FEDD=0643 FEDE=0644 FEDF=0644 FEE0-FEE1=0644 FEE2=0645 FEE3=0645 FEE4-FEE5=0645 FEE6=0646
  FEE7=0646 FEE8-FEE9=0646 FEEA=0647 FEEB=0647 FEEC-FEED=0647 FEEE-FEEF=0648 FEF0-FEF1=0649
  FEF2=064A FEF3=064A FEF4=064A FEF5=0644.0622 FEF6=0644.0622 FEF7=0644.0623 FEF8=0644.0623
  FEF9=0644.0625 FEFA=0644.0625 FEFB=0644.0627 FEFC=0644.0627 FEFF FF01-FF20=0021 FF21-FF3A=0061
  FF3B-FF5E=005B FF5F-FF60=2985 FF61=002E FF62-FF63=300C FF64=3001 FF65=30FB FF66=30F2 FF67=30A1
  FF68=30A3 FF69=30A5 FF6A=30A7 FF6B=30A9 FF6C=30E3 FF6D=30E5 FF6E=30E7 FF6F=30C3 FF70=30FC
  FF71=30A2 FF72=30A4 FF73=30A6 FF74=30A8 FF75-FF76=30AA FF77=30AD FF78=30AF FF79=30B1 FF7A=30B3
  FF7B=30B5 FF7C=30B7 FF7D=30B9 FF7E=30BB FF7F=30BD FF80=30BF FF81=30C1 FF82=30C4 FF83=30C6
  FF84=30C8 FF85-FF8A=30CA FF8B=30D2 FF8C=30D5 FF8D=30D8 FF8E=30DB FF8F-FF93=30DE FF94=30E4
  FF95=30E6 FF96-FF9B=30E8 FF9C=30EF FF9D=30F3 FF9E-FF9F=3099 FFA0 FFA1-FFA2=1100 FFA3=11AA
  FFA4=1102 FFA5-FFA6=11AC FFA7-FFA9=1103 FFAA-FFAF=11B0 FFB0=111A FFB1-FFB3=1106 FFB4=1121
  FFB5-FFBE=1109 FFC2-FFC7=1161 FFCA-FFCF=1167 FFD2-FFD7=116D FFDA-FFDC=1173 FFE0-FFE1=00A2
  FFE2=00AC FFE3=0020.0304 FFE4=00A6 FFE5=00A5 FFE6=20A9 FFE8=2502 FFE9-FFEC=2190 FFED=25A0
  FFEE=25CB E0100-E01EF"

end ReadThrough.Domain
