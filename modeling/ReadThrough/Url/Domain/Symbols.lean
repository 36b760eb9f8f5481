import ReadThrough.Unicode.Table

/-! What symbols become in a domain name: the letters and digits that circled, squared,
raised and mathematical forms are made of. -/

namespace ReadThrough.Domain

def symbols : Unicode.Table := .ofText "
  2000=0020 2001=0020 2002=0020 2003=0020 2004=0020 2005=0020 2006=0020 2007=0020 2008=0020
  2009=0020 200A=0020 200B 2011=2010 2017=0020.0333 202F=0020 2033=2032.2032 2034=2032.2032.2032
  2036=2035.2035 2037=2035.2035.2035 203C=0021.0021 203E=0020.0305 2047=003F.003F 2048=003F.0021
  2049=0021.003F 2057=2032.2032.2032.2032 205F=0020 2060-2064 206A-206F 2070=0030 2071=0069
  2074-2079=0034 207A=002B 207B=2212 207C=003D 207D-207E=0028 207F=006E 2080-2089=0030 208A=002B
  208B=2212 208C=003D 208D-208E=0028 2090=0061 2091=0065 2092=006F 2093=0078 2094=0259 2095=0068
  2096-2099=006B 209A=0070 209B-209C=0073 20A8=0072.0073 2100=0061.002F.0063 2101=0061.002F.0073
  2102=0063 2103=00B0.0063 2105=0063.002F.006F 2106=0063.002F.0075 2107=025B 2109=00B0.0066
  210A-210B=0067 210C=0068 210D=0068 210E=0068 210F=0127 2110=0069 2111=0069 2112=006C 2113=006C
  2115=006E 2116=006E.006F 2119-211B=0070 211C=0072 211D=0072 2120=0073.006D 2121=0074.0065.006C
  2122=0074.006D 2124=007A 2126=03C9 2128=007A 212A=006B 212B=00E5 212C-212D=0062 212F=0065
  2130-2131=0065 2132=214E 2133=006D 2134=006F 2135-2138=05D0 2139=0069 213B=0066.0061.0078
  213C=03C0 213D=03B3 213E=03B3 213F=03C0 2140=2211 2145=0064 2146-2147=0064 2148-2149=0069
  2150=0031.2044.0037 2151=0031.2044.0039 2152=0031.2044.0031.0030 2153-2154=0031.2044.0033
  2155-2158=0031.2044.0035 2159=0031.2044.0036 215A=0035.2044.0036 215B=0031.2044.0038
  215C=0033.2044.0038 215D=0035.2044.0038 215E=0037.2044.0038 215F=0031.2044 2160=0069
  2161=0069.0069 2162=0069.0069.0069 2163=0069.0076 2164=0076 2165=0076.0069 2166=0076.0069.0069
  2167=0076.0069.0069.0069 2168=0069.0078 2169=0078 216A=0078.0069 216B=0078.0069.0069 216C=006C
  216D-216E=0063 216F=006D 2170=0069 2171=0069.0069 2172=0069.0069.0069 2173=0069.0076 2174=0076
  2175=0076.0069 2176=0076.0069.0069 2177=0076.0069.0069.0069 2178=0069.0078 2179=0078
  217A=0078.0069 217B=0078.0069.0069 217C=006C 217D-217E=0063 217F=006D 2183=2184
  2189=0030.2044.0033 222C=222B.222B 222D=222B.222B.222B 222F=222E.222E 2230=222E.222E.222E
  2329-232A=3008 2460-2468=0031 2469=0031.0030 246A=0031.0031 246B=0031.0032 246C=0031.0033
  246D=0031.0034 246E=0031.0035 246F=0031.0036 2470=0031.0037 2471=0031.0038 2472=0031.0039
  2473=0032.0030 2474=0028.0031.0029 2475=0028.0032.0029 2476=0028.0033.0029 2477=0028.0034.0029
  2478=0028.0035.0029 2479=0028.0036.0029 247A=0028.0037.0029 247B=0028.0038.0029
  247C=0028.0039.0029 247D=0028.0031.0030.0029 247E=0028.0031.0031.0029 247F=0028.0031.0032.0029
  2480=0028.0031.0033.0029 2481=0028.0031.0034.0029 2482=0028.0031.0035.0029
  2483=0028.0031.0036.0029 2484=0028.0031.0037.0029 2485=0028.0031.0038.0029
  2486=0028.0031.0039.0029 2487=0028.0032.0030.0029 249C=0028.0061.0029 249D=0028.0062.0029
  249E=0028.0063.0029 249F=0028.0064.0029 24A0=0028.0065.0029 24A1=0028.0066.0029
  24A2=0028.0067.0029 24A3=0028.0068.0029 24A4=0028.0069.0029 24A5=0028.006A.0029
  24A6=0028.006B.0029 24A7=0028.006C.0029 24A8=0028.006D.0029 24A9=0028.006E.0029
  24AA=0028.006F.0029 24AB=0028.0070.0029 24AC=0028.0071.0029 24AD=0028.0072.0029
  24AE=0028.0073.0029 24AF=0028.0074.0029 24B0=0028.0075.0029 24B1=0028.0076.0029
  24B2=0028.0077.0029 24B3=0028.0078.0029 24B4=0028.0079.0029 24B5=0028.007A.0029 24B6-24CF=0061
  24D0-24E9=0061 24EA=0030 2A0C=222B.222B.222B.222B 2A74=003A.003A.003D 2A75=003D.003D
  2A76=003D.003D.003D 2ADC=2ADD.0338 2C00-2C2F=2C30 2C60=2C61 2C62=026B 2C63=1D7D 2C64=027D
  2C67=2C68 2C69=2C6A 2C6B=2C6C 2C6D=0251 2C6E=0271 2C6F=0250 2C70=0252 2C72=2C73 2C75=2C76
  2C7C=006A 2C7D=0076 2C7E-2C7F=023F 2C80=2C81 2C82=2C83 2C84=2C85 2C86=2C87 2C88=2C89 2C8A=2C8B
  2C8C=2C8D 2C8E=2C8F 2C90=2C91 2C92=2C93 2C94=2C95 2C96=2C97 2C98=2C99 2C9A=2C9B 2C9C=2C9D
  2C9E=2C9F 2CA0=2CA1 2CA2=2CA3 2CA4=2CA5 2CA6=2CA7 2CA8=2CA9 2CAA=2CAB 2CAC=2CAD 2CAE=2CAF
  2CB0=2CB1 2CB2=2CB3 2CB4=2CB5 2CB6=2CB7 2CB8=2CB9 2CBA=2CBB 2CBC=2CBD 2CBE=2CBF 2CC0=2CC1
  2CC2=2CC3 2CC4=2CC5 2CC6=2CC7 2CC8=2CC9 2CCA=2CCB 2CCC=2CCD 2CCE=2CCF 2CD0=2CD1 2CD2=2CD3
  2CD4=2CD5 2CD6=2CD7 2CD8=2CD9 2CDA=2CDB 2CDC=2CDD 2CDE=2CDF 2CE0=2CE1 2CE2=2CE3 2CEB=2CEC
  2CED=2CEE 2CF2=2CF3 2D6F=2D61 3000=0020 3002=002E 3036=3012 3038=5341 3039-303A=5344
  309B=0020.3099 309C=0020.309A 309F=3088.308A 30FF=30B3.30C8 3131-3132=1100 3133=11AA 3134=1102
  3135-3136=11AC 3137-3139=1103 313A-313F=11B0 3140=111A 3141-3143=1106 3144=1121 3145-314E=1109
  314F-3163=1161 3164 3165-3166=1114 3167-3168=11C7 3169=11CC 316A=11CE 316B=11D3 316C=11D7
  316D=11D9 316E=111C 316F=11DD 3170=11DF 3171-3172=111D 3173=1120 3174-3175=1122 3176=1127
  3177=1129 3178-317C=112B 317D=1132 317E=1136 317F=1140 3180=1147 3181=114C 3182-3183=11F1
  3184-3186=1157 3187-3188=1184 3189=1188 318A-318B=1191 318C=1194 318D=119E 318E=11A1 3192=4E00
  3193=4E8C 3194=4E09 3195=56DB 3196=4E0A 3197=4E2D 3198=4E0B 3199=7532 319A=4E59 319B=4E19
  319C=4E01 319D=5929 319E=5730 319F=4EBA 3200=0028.1100.0029 3201=0028.1102.0029
  3202=0028.1103.0029 3203=0028.1105.0029 3204=0028.1106.0029 3205=0028.1107.0029
  3206=0028.1109.0029 3207=0028.110B.0029 3208=0028.110C.0029 3209=0028.110E.0029
  320A=0028.110F.0029 320B=0028.1110.0029 320C=0028.1111.0029 320D=0028.1112.0029
  320E=0028.AC00.0029 320F=0028.B098.0029 3210=0028.B2E4.0029 3211=0028.B77C.0029
  3212=0028.B9C8.0029 3213=0028.BC14.0029 3214=0028.C0AC.0029 3215=0028.C544.0029
  3216=0028.C790.0029 3217=0028.CC28.0029 3218=0028.CE74.0029 3219=0028.D0C0.0029
  321A=0028.D30C.0029 321B=0028.D558.0029 321C=0028.C8FC.0029 321D=0028.C624.C804.0029
  321E=0028.C624.D6C4.0029 3220=0028.4E00.0029 3221=0028.4E8C.0029 3222=0028.4E09.0029
  3223=0028.56DB.0029 3224=0028.4E94.0029 3225=0028.516D.0029 3226=0028.4E03.0029
  3227=0028.516B.0029 3228=0028.4E5D.0029 3229=0028.5341.0029 322A=0028.6708.0029
  322B=0028.706B.0029 322C=0028.6C34.0029 322D=0028.6728.0029 322E=0028.91D1.0029
  322F=0028.571F.0029 3230=0028.65E5.0029 3231=0028.682A.0029 3232=0028.6709.0029
  3233=0028.793E.0029 3234=0028.540D.0029 3235=0028.7279.0029 3236=0028.8CA1.0029
  3237=0028.795D.0029 3238=0028.52B4.0029 3239=0028.4EE3.0029 323A=0028.547C.0029
  323B=0028.5B66.0029 323C=0028.76E3.0029 323D=0028.4F01.0029 323E=0028.8CC7.0029
  323F=0028.5354.0029 3240=0028.796D.0029 3241=0028.4F11.0029 3242=0028.81EA.0029
  3243=0028.81F3.0029 3244=554F 3245=5E7C 3246=6587 3247=7B8F 3250=0070.0074.0065 3251=0032.0031
  3252=0032.0032 3253=0032.0033 3254=0032.0034 3255=0032.0035 3256=0032.0036 3257=0032.0037
  3258=0032.0038 3259=0032.0039 325A=0033.0030 325B=0033.0031 325C=0033.0032 325D=0033.0033
  325E=0033.0034 325F=0033.0035 3260=1100 3261-3262=1102 3263-3265=1105 3266=1109 3267-3268=110B
  3269-326D=110E 326E=AC00 326F=B098 3270=B2E4 3271=B77C 3272=B9C8 3273=BC14 3274=C0AC 3275=C544
  3276=C790 3277=CC28 3278=CE74 3279=D0C0 327A=D30C 327B=D558 327C=CC38.ACE0 327D=C8FC.C758
  327E=C6B0 3280=4E00 3281=4E8C 3282=4E09 3283=56DB 3284=4E94 3285=516D 3286=4E03 3287=516B
  3288=4E5D 3289=5341 328A=6708 328B=706B 328C=6C34 328D=6728 328E=91D1 328F=571F 3290=65E5
  3291=682A 3292=6709 3293=793E 3294=540D 3295=7279 3296=8CA1 3297=795D 3298=52B4 3299=79D8
  329A=7537 329B=5973 329C=9069 329D=512A 329E=5370 329F=6CE8 32A0=9805 32A1=4F11 32A2=5199
  32A3=6B63 32A4=4E0A 32A5=4E2D 32A6=4E0B 32A7=5DE6 32A8=53F3 32A9=533B 32AA=5B97 32AB=5B66
  32AC=76E3 32AD=4F01 32AE=8CC7 32AF=5354 32B0=591C 32B1=0033.0036 32B2=0033.0037 32B3=0033.0038
  32B4=0033.0039 32B5=0034.0030 32B6=0034.0031 32B7=0034.0032 32B8=0034.0033 32B9=0034.0034
  32BA=0034.0035 32BB=0034.0036 32BC=0034.0037 32BD=0034.0038 32BE=0034.0039 32BF=0035.0030
  32C0-32C8=0031.6708 32C9=0031.0030.6708 32CA=0031.0031.6708 32CB=0031.0032.6708 32CC=0068.0067
  32CD=0065.0072.0067 32CE=0065.0076 32CF=006C.0074.0064 32D0=30A2 32D1=30A4 32D2=30A6 32D3=30A8
  32D4-32D5=30AA 32D6=30AD 32D7=30AF 32D8=30B1 32D9=30B3 32DA=30B5 32DB=30B7 32DC=30B9 32DD=30BB
  32DE=30BD 32DF=30BF 32E0=30C1 32E1=30C4 32E2=30C6 32E3=30C8 32E4-32E9=30CA 32EA=30D2 32EB=30D5
  32EC=30D8 32ED=30DB 32EE-32F2=30DE 32F3=30E4 32F4=30E6 32F5-32FA=30E8 32FB-32FE=30EF
  32FF=4EE4.548C 3300=30A2.30D1.30FC.30C8 3301=30A2.30EB.30D5.30A1 3302=30A2.30F3.30DA.30A2
  3303=30A2.30FC.30EB 3304=30A4.30CB.30F3.30B0 3305=30A4.30F3.30C1 3306=30A6.30A9.30F3
  3307=30A8.30B9.30AF.30FC.30C9 3308=30A8.30FC.30AB.30FC 3309=30AA.30F3.30B9 330A=30AA.30FC.30E0
  330B=30AB.30A4.30EA 330C=30AB.30E9.30C3.30C8 330D=30AB.30ED.30EA.30FC 330E=30AC.30ED.30F3
  330F=30AC.30F3.30DE 3310=30AE.30AC 3311=30AE.30CB.30FC 3312=30AD.30E5.30EA.30FC
  3313=30AE.30EB.30C0.30FC 3314=30AD.30ED 3315=30AD.30ED.30B0.30E9.30E0
  3316=30AD.30ED.30E1.30FC.30C8.30EB 3317=30AD.30ED.30EF.30C3.30C8 3318=30B0.30E9.30E0
  3319=30B0.30E9.30E0.30C8.30F3 331A=30AF.30EB.30BC.30A4.30ED 331B=30AF.30ED.30FC.30CD
  331C=30B1.30FC.30B9 331D=30B3.30EB.30CA 331E=30B3.30FC.30DD 331F=30B5.30A4.30AF.30EB
  3320=30B5.30F3.30C1.30FC.30E0 3321=30B7.30EA.30F3.30B0 3322=30BB.30F3.30C1 3323=30BB.30F3.30C8
  3324=30C0.30FC.30B9 3325=30C7.30B7 3326=30C9.30EB 3327=30C8.30F3 3328=30CA.30CE
  3329=30CE.30C3.30C8 332A=30CF.30A4.30C4 332B=30D1.30FC.30BB.30F3.30C8 332C=30D1.30FC.30C4
  332D=30D0.30FC.30EC.30EB 332E=30D4.30A2.30B9.30C8.30EB 332F=30D4.30AF.30EB 3330=30D4.30B3
  3331=30D3.30EB 3332=30D5.30A1.30E9.30C3.30C9 3333=30D5.30A3.30FC.30C8
  3334=30D6.30C3.30B7.30A7.30EB 3335=30D5.30E9.30F3 3336=30D8.30AF.30BF.30FC.30EB 3337=30DA.30BD
  3338=30DA.30CB.30D2 3339=30D8.30EB.30C4 333A=30DA.30F3.30B9 333B=30DA.30FC.30B8
  333C=30D9.30FC.30BF 333D=30DD.30A4.30F3.30C8 333E=30DC.30EB.30C8 333F=30DB.30F3
  3340=30DD.30F3.30C9 3341=30DB.30FC.30EB 3342=30DB.30FC.30F3 3343=30DE.30A4.30AF.30ED
  3344=30DE.30A4.30EB 3345=30DE.30C3.30CF 3346=30DE.30EB.30AF 3347=30DE.30F3.30B7.30E7.30F3
  3348=30DF.30AF.30ED.30F3 3349=30DF.30EA 334A=30DF.30EA.30D0.30FC.30EB 334B=30E1.30AC
  334C=30E1.30AC.30C8.30F3 334D=30E1.30FC.30C8.30EB 334E=30E4.30FC.30C9 334F=30E4.30FC.30EB
  3350=30E6.30A2.30F3 3351=30EA.30C3.30C8.30EB 3352=30EA.30E9 3353=30EB.30D4.30FC
  3354=30EB.30FC.30D6.30EB 3355=30EC.30E0 3356=30EC.30F3.30C8.30B2.30F3 3357=30EF.30C3.30C8
  3358-3361=0030.70B9 3362=0031.0030.70B9 3363=0031.0031.70B9 3364=0031.0032.70B9
  3365=0031.0033.70B9 3366=0031.0034.70B9 3367=0031.0035.70B9 3368=0031.0036.70B9
  3369=0031.0037.70B9 336A=0031.0038.70B9 336B=0031.0039.70B9 336C=0032.0030.70B9
  336D=0032.0031.70B9 336E=0032.0032.70B9 336F=0032.0033.70B9 3370=0032.0034.70B9
  3371=0068.0070.0061 3372=0064.0061 3373=0061.0075 3374=0062.0061.0072 3375=006F.0076
  3376=0070.0063 3377=0064.006D 3378=0064.006D.0032 3379=0064.006D.0033 337A=0069.0075
  337B=5E73.6210 337C=662D.548C 337D=5927.6B63 337E=660E.6CBB 337F=682A.5F0F.4F1A.793E
  3380=0070.0061 3381=006E.0061 3382=03BC.0061 3383=006D.0061 3384=006B.0061 3385=006B.0062
  3386=006D.0062 3387=0067.0062 3388=0063.0061.006C 3389=006B.0063.0061.006C 338A=0070.0066
  338B=006E.0066 338C=03BC.0066 338D=03BC.0067 338E=006D.0067 338F=006B.0067 3390=0068.007A
  3391=006B.0068.007A 3392=006D.0068.007A 3393=0067.0068.007A 3394=0074.0068.007A 3395=03BC.006C
  3396=006D.006C 3397=0064.006C 3398=006B.006C 3399=0066.006D 339A=006E.006D 339B=03BC.006D
  339C=006D.006D 339D=0063.006D 339E=006B.006D 339F=006D.006D.0032 33A0=0063.006D.0032
  33A1=006D.0032 33A2=006B.006D.0032 33A3=006D.006D.0033 33A4=0063.006D.0033 33A5=006D.0033
  33A6=006B.006D.0033 33A7=006D.2215.0073 33A8=006D.2215.0073.0032 33A9=0070.0061
  33AA=006B.0070.0061 33AB=006D.0070.0061 33AC=0067.0070.0061 33AD=0072.0061.0064
  33AE=0072.0061.0064.2215.0073 33AF=0072.0061.0064.2215.0073.0032 33B0=0070.0073 33B1=006E.0073
  33B2=03BC.0073 33B3=006D.0073 33B4=0070.0076 33B5=006E.0076 33B6=03BC.0076 33B7=006D.0076
  33B8=006B.0076 33B9=006D.0076 33BA=0070.0077 33BB=006E.0077 33BC=03BC.0077 33BD=006D.0077
  33BE=006B.0077 33BF=006D.0077 33C0=006B.03C9 33C1=006D.03C9 33C3=0062.0071 33C4=0063.0063
  33C5=0063.0064 33C6=0063.2215.006B.0067 33C8=0064.0062 33C9=0067.0079 33CA=0068.0061
  33CB=0068.0070 33CC=0069.006E 33CD=006B.006B 33CE=006B.006D 33CF=006B.0074 33D0=006C.006D
  33D1=006C.006E 33D2=006C.006F.0067 33D3=006C.0078 33D4=006D.0062 33D5=006D.0069.006C
  33D6=006D.006F.006C 33D7=0070.0068 33D9=0070.0070.006D 33DA=0070.0072 33DB=0073.0072
  33DC=0073.0076 33DD=0077.0062 33DE=0076.2215.006D 33DF=0061.2215.006D 33E0-33E8=0031.65E5
  33E9=0031.0030.65E5 33EA=0031.0031.65E5 33EB=0031.0032.65E5 33EC=0031.0033.65E5
  33ED=0031.0034.65E5 33EE=0031.0035.65E5 33EF=0031.0036.65E5 33F0=0031.0037.65E5
  33F1=0031.0038.65E5 33F2=0031.0039.65E5 33F3=0032.0030.65E5 33F4=0032.0031.65E5
  33F5=0032.0032.65E5 33F6=0032.0033.65E5 33F7=0032.0034.65E5 33F8=0032.0035.65E5
  33F9=0032.0036.65E5 33FA=0032.0037.65E5 33FB=0032.0038.65E5 33FC=0032.0039.65E5
  33FD=0033.0030.65E5 33FE=0033.0031.65E5 33FF=0067.0061.006C 1BCA0-1BCA3 1CCD6-1CCEF=0061
  1CCF0-1CCF9=0030 1D15E-1D15F=1D157.1D165 1D160=1D158.1D165.1D16E 1D161=1D158.1D165.1D16F
  1D162=1D158.1D165.1D170 1D163=1D158.1D165.1D171 1D164=1D158.1D165.1D172 1D173-1D17A
  1D1BB-1D1BC=1D1B9.1D165 1D1BD-1D1BE=1D1B9.1D165.1D16E 1D1BF-1D1C0=1D1B9.1D165.1D16F
  1D400-1D419=0061 1D41A-1D433=0061 1D434-1D44D=0061 1D44E-1D454=0061 1D456-1D467=0069
  1D468-1D481=0061 1D482-1D49B=0061 1D49C=0061 1D49E-1D49F=0063 1D4A2=0067 1D4A5-1D4A6=006A
  1D4A9-1D4AC=006E 1D4AE-1D4B5=0073 1D4B6-1D4B9=0061 1D4BB=0066 1D4BD-1D4C3=0068 1D4C5-1D4CF=0070
  1D4D0-1D4E9=0061 1D4EA-1D503=0061 1D504-1D505=0061 1D507-1D50A=0064 1D50D-1D514=006A
  1D516-1D51C=0073 1D51E-1D537=0061 1D538-1D539=0061 1D53B-1D53E=0064 1D540-1D544=0069 1D546=006F
  1D54A-1D550=0073 1D552-1D56B=0061 1D56C-1D585=0061 1D586-1D59F=0061 1D5A0-1D5B9=0061
  1D5BA-1D5D3=0061 1D5D4-1D5ED=0061 1D5EE-1D607=0061 1D608-1D621=0061 1D622-1D63B=0061
  1D63C-1D655=0061 1D656-1D66F=0061 1D670-1D689=0061 1D68A-1D6A3=0061 1D6A4=0131 1D6A5=0237
  1D6A8-1D6B8=03B1 1D6B9=03B8 1D6BA-1D6C0=03C3 1D6C1=2207 1D6C2-1D6D2=03B1 1D6D3=03C3
  1D6D4-1D6DA=03C3 1D6DB=2202 1D6DC=03B5 1D6DD=03B8 1D6DE=03BA 1D6DF=03C6 1D6E0=03C1 1D6E1=03C0
  1D6E2-1D6F2=03B1 1D6F3=03B8 1D6F4-1D6FA=03C3 1D6FB=2207 1D6FC-1D70C=03B1 1D70D=03C3
  1D70E-1D714=03C3 1D715=2202 1D716=03B5 1D717=03B8 1D718=03BA 1D719=03C6 1D71A=03C1 1D71B=03C0
  1D71C-1D72C=03B1 1D72D=03B8 1D72E-1D734=03C3 1D735=2207 1D736-1D746=03B1 1D747=03C3
  1D748-1D74E=03C3 1D74F=2202 1D750=03B5 1D751=03B8 1D752=03BA 1D753=03C6 1D754=03C1 1D755=03C0
  1D756-1D766=03B1 1D767=03B8 1D768-1D76E=03C3 1D76F=2207 1D770-1D780=03B1 1D781=03C3
  1D782-1D788=03C3 1D789=2202 1D78A=03B5 1D78B=03B8 1D78C=03BA 1D78D=03C6 1D78E=03C1 1D78F=03C0
  1D790-1D7A0=03B1 1D7A1=03B8 1D7A2-1D7A8=03C3 1D7A9=2207 1D7AA-1D7BA=03B1 1D7BB=03C3
  1D7BC-1D7C2=03C3 1D7C3=2202 1D7C4=03B5 1D7C5=03B8 1D7C6=03BA 1D7C7=03C6 1D7C8=03C1 1D7C9=03C0
  1D7CA=03DD 1D7CB=03DD 1D7CE-1D7D7=0030 1D7D8-1D7E1=0030 1D7E2-1D7EB=0030 1D7EC-1D7F5=0030
  1D7F6-1D7FF=0030 1EE00-1EE01=0627 1EE02=062C 1EE03=062F 1EE05=0648 1EE06=0632 1EE07=062D
  1EE08=0637 1EE09=064A 1EE0A-1EE0D=0643 1EE0E=0633 1EE0F=0639 1EE10=0641 1EE11=0635 1EE12=0642
  1EE13=0631 1EE14=0634 1EE15-1EE16=062A 1EE17=062E 1EE18=0630 1EE19=0636 1EE1A=0638 1EE1B=063A
  1EE1C=066E 1EE1D=06BA 1EE1E=06A1 1EE1F=066F 1EE21=0628 1EE22=062C 1EE24=0647 1EE27=062D
  1EE29=064A 1EE2A-1EE2D=0643 1EE2E=0633 1EE2F=0639 1EE30=0641 1EE31=0635 1EE32=0642 1EE34=0634
  1EE35-1EE36=062A 1EE37=062E 1EE39=0636 1EE3B=063A 1EE42=062C 1EE47=062D 1EE49=064A 1EE4B=0644
  1EE4D=0646 1EE4E=0633 1EE4F=0639 1EE51=0635 1EE52=0642 1EE54=0634 1EE57=062E 1EE59=0636
  1EE5B=063A 1EE5D=06BA 1EE5F=066F 1EE61=0628 1EE62=062C 1EE64=0647 1EE67=062D 1EE68=0637
  1EE69=064A 1EE6A=0643 1EE6C-1EE6D=0645 1EE6E=0633 1EE6F=0639 1EE70=0641 1EE71=0635 1EE72=0642
  1EE74=0634 1EE75-1EE76=062A 1EE77=062E 1EE79=0636 1EE7A=0638 1EE7B=063A 1EE7C=066E 1EE7E=06A1
  1EE80-1EE81=0627 1EE82=062C 1EE83=062F 1EE84-1EE85=0647 1EE86=0632 1EE87=062D 1EE88=0637
  1EE89=064A 1EE8B-1EE8D=0644 1EE8E=0633 1EE8F=0639 1EE90=0641 1EE91=0635 1EE92=0642 1EE93=0631
  1EE94=0634 1EE95-1EE96=062A 1EE97=062E 1EE98=0630 1EE99=0636 1EE9A=0638 1EE9B=063A 1EEA1=0628
  1EEA2=062C 1EEA3=062F 1EEA5=0648 1EEA6=0632 1EEA7=062D 1EEA8=0637 1EEA9=064A 1EEAB-1EEAD=0644
  1EEAE=0633 1EEAF=0639 1EEB0=0641 1EEB1=0635 1EEB2=0642 1EEB3=0631 1EEB4=0634 1EEB5-1EEB6=062A
  1EEB7=062E 1EEB8=0630 1EEB9=0636 1EEBA=0638 1EEBB=063A 1F101-1F10A=0030.002C
  1F110=0028.0061.0029 1F111=0028.0062.0029 1F112=0028.0063.0029 1F113=0028.0064.0029
  1F114=0028.0065.0029 1F115=0028.0066.0029 1F116=0028.0067.0029 1F117=0028.0068.0029
  1F118=0028.0069.0029 1F119=0028.006A.0029 1F11A=0028.006B.0029 1F11B=0028.006C.0029
  1F11C=0028.006D.0029 1F11D=0028.006E.0029 1F11E=0028.006F.0029 1F11F=0028.0070.0029
  1F120=0028.0071.0029 1F121=0028.0072.0029 1F122=0028.0073.0029 1F123=0028.0074.0029
  1F124=0028.0075.0029 1F125=0028.0076.0029 1F126=0028.0077.0029 1F127=0028.0078.0029
  1F128=0028.0079.0029 1F129=0028.007A.0029 1F12A=3014.0073.3015 1F12B=0063 1F12C=0072
  1F12D=0063.0064 1F12E=0077.007A 1F130-1F149=0061 1F14A=0068.0076 1F14B=006D.0076 1F14C=0073.0064
  1F14D=0073.0073 1F14E=0070.0070.0076 1F14F=0077.0063 1F16A=006D.0063 1F16B=006D.0064
  1F16C=006D.0072 1F190=0064.006A 1F200=307B.304B 1F201=30B3.30B3 1F202=30B5 1F210=624B 1F211=5B57
  1F212=53CC 1F213=30C7 1F214=4E8C 1F215=591A 1F216=89E3 1F217=5929 1F218=4EA4 1F219=6620
  1F21A=7121 1F21B=6599 1F21C=524D 1F21D=5F8C 1F21E=518D 1F21F=65B0 1F220=521D 1F221=7D42
  1F222=751F 1F223=8CA9 1F224=58F0 1F225=5439 1F226=6F14 1F227=6295 1F228=6355 1F229=4E00
  1F22A=4E09 1F22B=904A 1F22C=5DE6 1F22D=4E2D 1F22E=53F3 1F22F=6307 1F230=8D70 1F231=6253
  1F232=7981 1F233=7A7A 1F234=5408 1F235=6E80 1F236=6709 1F237=6708 1F238=7533 1F239=5272
  1F23A=55B6 1F23B=914D 1F240=3014.672C.3015 1F241=3014.4E09.3015 1F242=3014.4E8C.3015
  1F243=3014.5B89.3015 1F244=3014.70B9.3015 1F245=3014.6253.3015 1F246=3014.76D7.3015
  1F247=3014.52DD.3015 1F248=3014.6557.3015 1F250=5F97 1F251=53EF 1FBF0-1FBF9=0030"

end ReadThrough.Domain
