import PanelProbe.Text.Table

/-!
The spellings of folded characters and the characters that folding refuses, as Unicode 17 has them.
Spellings that composition gives by itself are left out.
-/

set_option autoImplicit false

namespace PanelProbe.Text

/-- The characters beyond ASCII that do not fold to themselves; those that vanish come first. -/
def spellings : List Table.Entry :=
  Table.entries
    "AD> 34F> 115F-1160> 17B4-17B5> 180B-180F> 200B> 2060-2064> 206A-206F> 3164> FE00-FE0F> FEFF>
    FFA0> 1BCA0-1BCA3> 1D173-1D17A> E0100-E01EF>" ++
  Table.entries
    "A0>20 A8>20,308 AA>61 AF>20,304 B2-B3>32 20,301 3BC B8>20,327 31 6F BC>31,2044,34 31,2044,32
    33,2044,34 C0-D6>E0 D8-DE>F8 100-12E/2>101 130>69,307 132>69,6A 69,6A 134-136/2>135
    139-13D/2>13A 13F>6C,B7 6C,B7 141-147/2>142 149>2BC,6E 14A-176/2>14B 178>FF 179-17D/2>17A
    17F>73 181>253 182-184/2>183 186>254 188 189-18A>256 18C 18E>1DD 259 25B 192 193>260 263
    196>269 268 199 19C>26F 272 19F>275 1A0-1A4/2>1A1 1A6>280 1A8 1A9>283 1AC>1AD 1AE>288 1B0
    1B1-1B2>28A 1B3-1B5/2>1B4 1B7>292 1B9 1BC>1BD 1C4>64,17E 64,17E 64,17E 6C,6A 6C,6A 6C,6A 6E,6A
    6E,6A 6E,6A 1CD-1DB/2>1CE 1DE-1EE/2>1DF 1F1>64,7A 64,7A 64,7A 1F5 1F6>195 1BF 1F8-21E/2>1F9
    220>19E 222-232/2>223 23A>2C65 23C 23D>19A 2C66 241>242 243>180 289 28C 246-24E/2>247
    2B0-2B2/2>68 2B1>266 2B3>72 279 27B 281 77 79 2D8>20,306 20,307 20,30A 20,328 20,303 20,30B
    2E0>263 6C 73 78 295 345>3B9 370-372/2>371 376>377 37A>20,3B9 37F>3F3 384>20,301 20,308,301
    3AC 388-38A>3AD 38C>3CC 38E-38F>3CD 391-3A1>3B1 3A3-3AB>3C3 3CF>3D7 3B2 3B8 3C5 3CD 3CB 3C6
    3C0 3D8-3EE/2>3D9 3F0>3BA 3C1 3C3 3F4>3B8 3B5 3F7>3F8 3F9>3C3 3FB 3FD-3FF>37B 400-40F>450
    410-42F>430 460-480/2>461 48A-4BE/2>48B 4C0>4CF 4C1-4CD/2>4C2 4D0-52E/2>4D1 531-556>561
    587>565,582 675>627,674 648,674 6C7,674 64A,674 E33>E4D,E32 EB3>ECD,EB2 EDC>EAB,E99 EAB,EA1
    F0C>F0B F77>FB2,F71,F80 F79>FB3,F71,F80 10A0-10C5>2D00 10C7>2D27 10CD>2D2D 10FC>10DC
    13F8-13FD>13F0 1C80>432 434 43E 1C83-1C84>441 442 44A 463 A64B 1C8A 1C90-1CBA>10D0
    1CBD-1CBF>10FD 1D2C>61 E6 1D2E-1D30/2>62 1D31-1D39/2>65 1D32>1DD 1D34-1D3A/2>68 1D3C>6F 223 70
    72 1D40-1D41>74 77 61 1D44-1D45>250 1D02 62 1D48-1D49>64 259 1D4B-1D4C>25B 67 1D4F>6B
    1D50-1D52/2>6D 1D51>14B 1D53>254 1D54-1D55>1D16 70 1D57-1D58>74 1D1D 26F 76 1D25 1D5D-1D5F>3B2
    1D60-1D61>3C6 69 72 1D64-1D65>75 1D66-1D67>3B2 3C1 1D69-1D6A>3C6 1D78>43D 1D9B>252 63 255 F0
    25C 66 25F 261 265 1DA4-1DA6>268 1D7B 29D 26D 1D85 29F 271 270 1DAE-1DB1>272 278 1DB3-1DB4>282
    1AB 1DB6-1DB7>289 1D1C 1DB9-1DBA>28B 7A 1DBC-1DBE>290 3B8 1E00-1E94/2>1E01 1E9A>61,2BE 1E61
    1E9E>DF 1EA0-1EFE/2>1EA1 1F08-1F0F>1F00 1F18-1F1D>1F10 1F28-1F2F>1F20 1F38-1F3F>1F30
    1F48-1F4D>1F40 1F59-1F5F/2>1F51 1F68-1F6F>1F60 1F80>1F00,3B9 1F01,3B9 1F02,3B9 1F03,3B9
    1F04,3B9 1F05,3B9 1F06,3B9 1F07,3B9 1F00,3B9 1F01,3B9 1F02,3B9 1F03,3B9 1F04,3B9 1F05,3B9
    1F06,3B9 1F07,3B9 1F20,3B9 1F21,3B9 1F22,3B9 1F23,3B9 1F24,3B9 1F25,3B9 1F26,3B9 1F27,3B9
    1F20,3B9 1F21,3B9 1F22,3B9 1F23,3B9 1F24,3B9 1F25,3B9 1F26,3B9 1F27,3B9 1F60,3B9 1F61,3B9
    1F62,3B9 1F63,3B9 1F64,3B9 1F65,3B9 1F66,3B9 1F67,3B9 1F60,3B9 1F61,3B9 1F62,3B9 1F63,3B9
    1F64,3B9 1F65,3B9 1F66,3B9 1F67,3B9 1FB2>1F70,3B9 3B1,3B9 3AC,3B9 1FB7>1FB6,3B9 1FB8-1FB9>1FB0
    1F70 3AC 3B1,3B9 20,313 1FBF>20,313 20,342 20,308,342 1F74,3B9 3B7,3B9 3AE,3B9 1FC7>1FC6,3B9
    1FC8-1FCA/2>1F72 1FC9>3AD 1FCB>3AE 3B7,3B9 20,313,300 20,313,301 20,313,342 1FD8-1FD9>1FD0
    1F76 3AF 1FDD>20,314,300 20,314,301 20,314,342 1FE8-1FE9>1FE0 1F7A 3CD 1FE5 20,308,300
    20,308,301 1FF2>1F7C,3B9 3C9,3B9 3CE,3B9 1FF7>1FF6,3B9 1F78 1FF9-1FFB/2>3CC 1FFA>1F7C
    1FFC>3C9,3B9 20,301 20,314 2000>20 20 20 20 20 20 20 20 20 20 20 2011>2010 2017>20,333 202F>20
    2033>2032,2032 2032,2032,2032 2036>2035,2035 2035,2035,2035 203C>21,21 203E>20,305 2047>3F,3F
    3F,21 21,3F 2057>2032,2032,2032,2032 205F>20 2070>30 69 2074-2079>34 2B 2212 3D 207D-207E>28
    6E 2080-2089>30 2B 2212 3D 208D-208E>28 2090>61 65 6F 78 259 68 2096-2099>6B 70 209B-209C>73
    20A8>72,73 2100>61,2F,63 61,2F,73 63 B0,63 2105>63,2F,6F 63,2F,75 25B 2109>B0,66 210A-210B>67
    68 68 68 127 69 69 6C 2113-2115/2>6C 2116>6E,6F 2119-211B>70 72 72 2120>73,6D 74,65,6C 74,6D
    2124>7A 2126>3C9 2128>7A 212A>6B E5 212C-212D>62 212F>65 2130-2131>65 214E 6D 6F 2135-2138>5D0
    69 213B>66,61,78 3C0 3B3 3B3 3C0 2211 2145>64 2146-2147>64 2148-2149>69 2150>31,2044,37
    31,2044,39 31,2044,31,30 31,2044,33 32,2044,33 31,2044,35 32,2044,35 33,2044,35 34,2044,35
    31,2044,36 35,2044,36 31,2044,38 33,2044,38 35,2044,38 37,2044,38 31,2044 69 69,69 69,69,69
    69,76 76 76,69 76,69,69 76,69,69,69 69,78 78 78,69 78,69,69 6C 216D-216E>63 6D 69 69,69
    69,69,69 69,76 76 76,69 76,69,69 76,69,69,69 69,78 78 78,69 78,69,69 6C 217D-217E>63 6D
    2183>2184 2189>30,2044,33 222C>222B,222B 222B,222B,222B 222F>222E,222E 222E,222E,222E
    2460-2468>31 31,30 31,31 31,32 31,33 31,34 31,35 31,36 31,37 31,38 31,39 32,30 28,31,29
    28,32,29 28,33,29 28,34,29 28,35,29 28,36,29 28,37,29 28,38,29 28,39,29 28,31,30,29
    28,31,31,29 28,31,32,29 28,31,33,29 28,31,34,29 28,31,35,29 28,31,36,29 28,31,37,29
    28,31,38,29 28,31,39,29 28,32,30,29 249C>28,61,29 28,62,29 28,63,29 28,64,29 28,65,29 28,66,29
    28,67,29 28,68,29 28,69,29 28,6A,29 28,6B,29 28,6C,29 28,6D,29 28,6E,29 28,6F,29 28,70,29
    28,71,29 28,72,29 28,73,29 28,74,29 28,75,29 28,76,29 28,77,29 28,78,29 28,79,29 28,7A,29
    24B6-24CF>61 24D0-24E9>61 30 2A0C>222B,222B,222B,222B 2A74>3A,3A,3D 3D,3D 3D,3D,3D
    2C00-2C2F>2C30 2C60>2C61 2C62>26B 1D7D 27D 2C67-2C6B/2>2C68 2C6D>251 271 250 252 2C72>2C73
    2C75>2C76 2C7C>6A 76 2C7E-2C7F>23F 2C80-2CE2/2>2C81 2CEB-2CED/2>2CEC 2CF2>2CF3 2D6F>2D61
    2E9F>6BCD 2EF3>9F9F 2F00>4E00 4E28 4E36 4E3F 4E59 4E85 4E8C 4EA0 4EBA 513F 5165 516B 5182 5196
    51AB 51E0 51F5 5200 529B 52F9 5315 531A 5338 5341 535C 5369 5382 53B6 53C8 53E3 56D7 571F 58EB
    5902 590A 5915 5927 5973 5B50 5B80 5BF8 5C0F 5C22 5C38 5C6E 5C71 5DDB 5DE5 5DF1 5DFE 5E72 5E7A
    5E7F 5EF4 5EFE 5F0B 5F13 5F50 5F61 5F73 5FC3 6208 6236 624B 652F 6534 6587 6597 65A4 65B9 65E0
    65E5 66F0 6708 6728 6B20 6B62 6B79 6BB3 6BCB 6BD4 6BDB 6C0F 6C14 6C34 706B 722A 7236 723B 723F
    7247 7259 725B 72AC 7384 7389 74DC 74E6 7518 751F 7528 7530 758B 7592 7676 767D 76AE 76BF 76EE
    77DB 77E2 77F3 793A 79B8 79BE 7A74 7ACB 7AF9 7C73 7CF8 7F36 7F51 7F8A 7FBD 8001 800C 8012 8033
    807F 8089 81E3 81EA 81F3 81FC 820C 821B 821F 826E 8272 8278 864D 866B 8840 884C 8863 897E 898B
    89D2 8A00 8C37 8C46 8C55 8C78 8C9D 8D64 8D70 8DB3 8EAB 8ECA 8F9B 8FB0 8FB5 9091 9149 91C6 91CC
    91D1 9577 9580 961C 96B6 96B9 96E8 9751 975E 9762 9769 97CB 97ED 97F3 9801 98A8 98DB 98DF 9996
    9999 99AC 9AA8 9AD8 9ADF 9B25 9B2F 9B32 9B3C 9B5A 9CE5 9E75 9E7F 9EA5 9EBB 9EC3 9ECD 9ED1 9EF9
    9EFD 9F0E 9F13 9F20 9F3B 9F4A 9F52 9F8D 9F9C 9FA0 3000>20 3002>2E 3036>3012 3038>5341
    3039-303A>5344 309B>20,3099 20,309A 309F>3088,308A 30FF>30B3,30C8 3131-3132>1100
    3133-3135/2>11AA 3134>1102 3136>11AD 3137-3139>1103 313A-313F>11B0 111A 3141-3143>1106 1121
    3145-314E>1109 314F-3163>1161 3165-3166>1114 3167-3168>11C7 11CC 11CE 11D3 11D7 11D9 111C 11DD
    11DF 3171-3172>111D 1120 3174-3175>1122 1127 1129 3178-317C>112B 1132 1136 1140 1147 114C
    3182-3183>11F1 3184-3186>1157 3187-3188>1184 1188 318A-318B>1191 1194 119E 11A1 3192>4E00 4E8C
    4E09 56DB 4E0A 4E2D 4E0B 7532 4E59 4E19 4E01 5929 5730 4EBA 3200>28,1100,29 28,1102,29
    28,1103,29 28,1105,29 28,1106,29 28,1107,29 28,1109,29 28,110B,29 28,110C,29 28,110E,29
    28,110F,29 28,1110,29 28,1111,29 28,1112,29 28,AC00,29 28,B098,29 28,B2E4,29 28,B77C,29
    28,B9C8,29 28,BC14,29 28,C0AC,29 28,C544,29 28,C790,29 28,CC28,29 28,CE74,29 28,D0C0,29
    28,D30C,29 28,D558,29 28,C8FC,29 28,C624,C804,29 28,C624,D6C4,29 3220>28,4E00,29 28,4E8C,29
    28,4E09,29 28,56DB,29 28,4E94,29 28,516D,29 28,4E03,29 28,516B,29 28,4E5D,29 28,5341,29
    28,6708,29 28,706B,29 28,6C34,29 28,6728,29 28,91D1,29 28,571F,29 28,65E5,29 28,682A,29
    28,6709,29 28,793E,29 28,540D,29 28,7279,29 28,8CA1,29 28,795D,29 28,52B4,29 28,4EE3,29
    28,547C,29 28,5B66,29 28,76E3,29 28,4F01,29 28,8CC7,29 28,5354,29 28,796D,29 28,4F11,29
    28,81EA,29 28,81F3,29 554F 5E7C 6587 7B8F 3250>70,74,65 32,31 32,32 32,33 32,34 32,35 32,36
    32,37 32,38 32,39 33,30 33,31 33,32 33,33 33,34 33,35 1100 3261-3262>1102 3263-3265>1105 1109
    3267-3268>110B 3269-326D>110E AC00 B098 B2E4 B77C B9C8 BC14 C0AC C544 C790 CC28 CE74 D0C0 D30C
    D558 CC38,ACE0 C8FC,C758 C6B0 3280>4E00 4E8C 4E09 56DB 4E94 516D 4E03 516B 4E5D 5341 6708 706B
    6C34 6728 91D1 571F 65E5 682A 6709 793E 540D 7279 8CA1 795D 52B4 79D8 7537 5973 9069 512A 5370
    6CE8 9805 4F11 5199 6B63 4E0A 4E2D 4E0B 5DE6 53F3 533B 5B97 5B66 76E3 4F01 8CC7 5354 591C
    33,36 33,37 33,38 33,39 34,30 34,31 34,32 34,33 34,34 34,35 34,36 34,37 34,38 34,39 35,30
    31,6708 32,6708 33,6708 34,6708 35,6708 36,6708 37,6708 38,6708 39,6708 31,30,6708 31,31,6708
    31,32,6708 68,67 65,72,67 65,76 6C,74,64 30A2 30A4 30A6 30A8 32D4-32D5>30AA 30AD 30AF 30B1
    30B3 30B5 30B7 30B9 30BB 30BD 30BF 30C1 30C4 30C6 30C8 32E4-32E9>30CA 30D2 30D5 30D8 30DB
    32EE-32F2>30DE 30E4 30E6 32F5-32FA>30E8 32FB-32FE>30EF 4EE4,548C 30A2,30D1,30FC,30C8
    30A2,30EB,30D5,30A1 30A2,30F3,30DA,30A2 30A2,30FC,30EB 30A4,30CB,30F3,30B0 30A4,30F3,30C1
    30A6,30A9,30F3 30A8,30B9,30AF,30FC,30C9 30A8,30FC,30AB,30FC 30AA,30F3,30B9 30AA,30FC,30E0
    30AB,30A4,30EA 30AB,30E9,30C3,30C8 30AB,30ED,30EA,30FC 30AC,30ED,30F3 30AC,30F3,30DE 30AE,30AC
    30AE,30CB,30FC 30AD,30E5,30EA,30FC 30AE,30EB,30C0,30FC 30AD,30ED 30AD,30ED,30B0,30E9,30E0
    30AD,30ED,30E1,30FC,30C8,30EB 30AD,30ED,30EF,30C3,30C8 30B0,30E9,30E0 30B0,30E9,30E0,30C8,30F3
    30AF,30EB,30BC,30A4,30ED 30AF,30ED,30FC,30CD 30B1,30FC,30B9 30B3,30EB,30CA 30B3,30FC,30DD
    30B5,30A4,30AF,30EB 30B5,30F3,30C1,30FC,30E0 30B7,30EA,30F3,30B0 30BB,30F3,30C1 30BB,30F3,30C8
    30C0,30FC,30B9 30C7,30B7 30C9,30EB 30C8,30F3 30CA,30CE 30CE,30C3,30C8 30CF,30A4,30C4
    30D1,30FC,30BB,30F3,30C8 30D1,30FC,30C4 30D0,30FC,30EC,30EB 30D4,30A2,30B9,30C8,30EB
    30D4,30AF,30EB 30D4,30B3 30D3,30EB 30D5,30A1,30E9,30C3,30C9 30D5,30A3,30FC,30C8
    30D6,30C3,30B7,30A7,30EB 30D5,30E9,30F3 30D8,30AF,30BF,30FC,30EB 30DA,30BD 30DA,30CB,30D2
    30D8,30EB,30C4 30DA,30F3,30B9 30DA,30FC,30B8 30D9,30FC,30BF 30DD,30A4,30F3,30C8 30DC,30EB,30C8
    30DB,30F3 30DD,30F3,30C9 30DB,30FC,30EB 30DB,30FC,30F3 30DE,30A4,30AF,30ED 30DE,30A4,30EB
    30DE,30C3,30CF 30DE,30EB,30AF 30DE,30F3,30B7,30E7,30F3 30DF,30AF,30ED,30F3 30DF,30EA
    30DF,30EA,30D0,30FC,30EB 30E1,30AC 30E1,30AC,30C8,30F3 30E1,30FC,30C8,30EB 30E4,30FC,30C9
    30E4,30FC,30EB 30E6,30A2,30F3 30EA,30C3,30C8,30EB 30EA,30E9 30EB,30D4,30FC 30EB,30FC,30D6,30EB
    30EC,30E0 30EC,30F3,30C8,30B2,30F3 30EF,30C3,30C8 30,70B9 31,70B9 32,70B9 33,70B9 34,70B9
    35,70B9 36,70B9 37,70B9 38,70B9 39,70B9 31,30,70B9 31,31,70B9 31,32,70B9 31,33,70B9 31,34,70B9
    31,35,70B9 31,36,70B9 31,37,70B9 31,38,70B9 31,39,70B9 32,30,70B9 32,31,70B9 32,32,70B9
    32,33,70B9 32,34,70B9 68,70,61 64,61 61,75 62,61,72 6F,76 70,63 64,6D 64,6D,32 64,6D,33 69,75
    5E73,6210 662D,548C 5927,6B63 660E,6CBB 682A,5F0F,4F1A,793E 70,61 6E,61 3BC,61 6D,61 6B,61
    6B,62 6D,62 67,62 63,61,6C 6B,63,61,6C 70,66 6E,66 3BC,66 3BC,67 6D,67 6B,67 68,7A 6B,68,7A
    6D,68,7A 67,68,7A 74,68,7A 3BC,6C 6D,6C 64,6C 6B,6C 66,6D 6E,6D 3BC,6D 6D,6D 63,6D 6B,6D
    6D,6D,32 63,6D,32 6D,32 6B,6D,32 6D,6D,33 63,6D,33 6D,33 6B,6D,33 6D,2215,73 6D,2215,73,32
    70,61 6B,70,61 6D,70,61 67,70,61 72,61,64 72,61,64,2215,73 72,61,64,2215,73,32 70,73 6E,73
    3BC,73 6D,73 70,76 6E,76 3BC,76 6D,76 6B,76 6D,76 70,77 6E,77 3BC,77 6D,77 6B,77 6D,77 6B,3C9
    6D,3C9 33C3>62,71 63,63 63,64 63,2215,6B,67 33C8>64,62 67,79 68,61 68,70 69,6E 6B,6B 6B,6D
    6B,74 6C,6D 6C,6E 6C,6F,67 6C,78 6D,62 6D,69,6C 6D,6F,6C 70,68 33D9>70,70,6D 70,72 73,72 73,76
    77,62 76,2215,6D 61,2215,6D 31,65E5 32,65E5 33,65E5 34,65E5 35,65E5 36,65E5 37,65E5 38,65E5
    39,65E5 31,30,65E5 31,31,65E5 31,32,65E5 31,33,65E5 31,34,65E5 31,35,65E5 31,36,65E5
    31,37,65E5 31,38,65E5 31,39,65E5 32,30,65E5 32,31,65E5 32,32,65E5 32,33,65E5 32,34,65E5
    32,35,65E5 32,36,65E5 32,37,65E5 32,38,65E5 32,39,65E5 33,30,65E5 33,31,65E5 67,61,6C
    A640-A66C/2>A641 A680-A69A/2>A681 A69C>44A 44C A722-A72E/2>A723 A732-A76E/2>A733 A770>A76F
    A779-A77B/2>A77A A77D>1D79 A77E-A786/2>A77F A78B>A78C A78D>265 A790-A792/2>A791
    A796-A7A8/2>A797 A7AA>266 25C 261 26C 26A A7B0>29E 287 29D AB53 A7B4-A7C2/2>A7B5 A7C4>A794 282
    1D8E A7C7-A7C9/2>A7C8 A7CB>264 A7CC-A7DA/2>A7CD A7DC>19B A7F1>73 63 66 71 A7F6 A7F8>127 153
    AB5C>A727 AB37 26B AB52 AB69>28D AB70-ABBF>13A0 FB00>66,66 66,69 66,6C 66,66,69 66,66,6C 73,74
    73,74 FB13>574,576 574,565 574,56B 57E,576 574,56D FB20>5E2 5D0 FB22-FB23>5D3 FB24-FB26>5DB
    5E8 5EA 2B FB4F>5D0,5DC 671 671 67B 67B 67B 67B 67E 67E FB58-FB5A/2>67E FB59-FB5B/2>67E
    FB5C>680 680 67A 67A 67A 67A 67F 67F 67F 67F 679 679 679 679 6A4 6A4 FB6C-FB6E/2>6A4
    FB6D-FB6F/2>6A4 FB70>6A6 6A6 684 684 684 684 683 683 683 683 686 686 686 FB7D-FB7E>686 687 687
    687 68D 68D FB84-FB86/2>68C FB85-FB87/2>68C FB88>688 688 698 698 691 691 6A9 6A9 6A9 6A9 6AF
    6AF 6AF 6AF 6B3 6B3 6B3 6B3 6B1 6B1 6B1 6B1 6BA FB9F-FBA0>6BA 6BB 6BB 6BB 6C0 FBA5-FBA6>6C0
    6C1 6C1 6C1 6BE 6BE 6BE 6BE 6D2 FBAF-FBB0>6D2 6D3 FBD3>6AD 6AD 6AD 6AD 6C7 6C7 FBD9-FBDB/2>6C6
    FBDA-FBDC/2>6C6 FBDD>6C7,674 6CB 6CB 6C5 6C5 6C9 6C9 6D0 6D0 6D0 6D0 649 649 626,627 626,627
    626,6D5 626,6D5 626,648 626,648 626,6C7 626,6C7 626,6C6 626,6C6 626,6C8 626,6C8 626,6D0
    626,6D0 626,6D0 626,649 626,649 626,649 6CC 6CC 6CC 6CC 626,62C 626,62D 626,645 626,649
    626,64A 628,62C 628,62D 628,62E 628,645 628,649 628,64A 62A,62C 62A,62D 62A,62E 62A,645
    62A,649 62A,64A 62B,62C 62B,645 62B,649 62B,64A 62C,62D 62C,645 62D,62C 62D,645 62E,62C
    62E,62D 62E,645 633,62C 633,62D 633,62E 633,645 635,62D 635,645 636,62C 636,62D 636,62E
    636,645 637,62D 637,645 638,645 639,62C 639,645 63A,62C 63A,645 641,62C 641,62D 641,62E
    641,645 641,649 641,64A 642,62D 642,645 642,649 642,64A 643,627 643,62C 643,62D 643,62E
    643,644 643,645 643,649 643,64A 644,62C 644,62D 644,62E 644,645 644,649 644,64A 645,62C
    645,62D 645,62E 645,645 645,649 645,64A 646,62C 646,62D 646,62E 646,645 646,649 646,64A
    647,62C 647,645 647,649 647,64A 64A,62C 64A,62D 64A,62E 64A,645 64A,649 64A,64A 630,670
    631,670 649,670 20,64C,651 20,64D,651 20,64E,651 20,64F,651 20,650,651 20,651,670 626,631
    626,632 626,645 626,646 626,649 626,64A 628,631 628,632 628,645 628,646 628,649 628,64A
    62A,631 62A,632 62A,645 62A,646 62A,649 62A,64A 62B,631 62B,632 62B,645 62B,646 62B,649
    62B,64A 641,649 641,64A 642,649 642,64A 643,627 643,644 643,645 643,649 643,64A 644,645
    644,649 644,64A 645,627 645,645 646,631 646,632 646,645 646,646 646,649 646,64A 649,670
    64A,631 64A,632 64A,645 64A,646 64A,649 64A,64A 626,62C 626,62D 626,62E 626,645 626,647
    628,62C 628,62D 628,62E 628,645 628,647 62A,62C 62A,62D 62A,62E 62A,645 62A,647 62B,645
    62C,62D 62C,645 62D,62C 62D,645 62E,62C 62E,645 633,62C 633,62D 633,62E 633,645 635,62D
    635,62E 635,645 636,62C 636,62D 636,62E 636,645 637,62D 638,645 639,62C 639,645 63A,62C
    63A,645 641,62C 641,62D 641,62E 641,645 642,62D 642,645 643,62C 643,62D 643,62E 643,644
    643,645 644,62C 644,62D 644,62E 644,645 644,647 645,62C 645,62D 645,62E 645,645 646,62C
    646,62D 646,62E 646,645 646,647 647,62C 647,645 647,670 64A,62C 64A,62D 64A,62E 64A,645
    64A,647 626,645 626,647 628,645 628,647 62A,645 62A,647 62B,645 62B,647 633,645 633,647
    634,645 634,647 643,644 643,645 644,645 646,645 646,647 64A,645 64A,647 640,64E,651
    640,64F,651 640,650,651 637,649 637,64A 639,649 639,64A 63A,649 63A,64A 633,649 633,64A
    634,649 634,64A 62D,649 62D,64A 62C,649 62C,64A 62E,649 62E,64A 635,649 635,64A 636,649
    636,64A 634,62C 634,62D 634,62E 634,645 634,631 633,631 635,631 636,631 637,649 637,64A
    639,649 639,64A 63A,649 63A,64A 633,649 633,64A 634,649 634,64A 62D,649 62D,64A 62C,649
    62C,64A 62E,649 62E,64A 635,649 635,64A 636,649 636,64A 634,62C 634,62D 634,62E 634,645
    634,631 633,631 635,631 636,631 634,62C 634,62D 634,62E 634,645 633,647 634,647 637,645
    633,62C 633,62D 633,62E 634,62C 634,62D 634,62E 637,645 638,645 627,64B 627,64B
    FD50>62A,62C,645 62A,62D,62C 62A,62D,62C 62A,62D,645 62A,62E,645 62A,645,62C 62A,645,62D
    62A,645,62E 62C,645,62D 62C,645,62D 62D,645,64A 62D,645,649 633,62D,62C 633,62C,62D
    633,62C,649 633,645,62D 633,645,62D 633,645,62C 633,645,645 633,645,645 635,62D,62D
    635,62D,62D 635,645,645 634,62D,645 634,62D,645 634,62C,64A 634,645,62E 634,645,62E
    634,645,645 634,645,645 636,62D,649 636,62E,645 636,62E,645 637,645,62D 637,645,62D
    637,645,645 637,645,64A 639,62C,645 639,645,645 639,645,645 639,645,649 63A,645,645
    63A,645,64A 63A,645,649 641,62E,645 641,62E,645 642,645,62D 642,645,645 644,62D,645
    644,62D,64A 644,62D,649 644,62C,62C 644,62C,62C 644,62E,645 644,62E,645 644,645,62D
    644,645,62D 645,62D,62C 645,62D,645 645,62D,64A 645,62C,62D 645,62C,645 645,62E,62C
    645,62E,645 FD92>645,62C,62E 647,645,62C 647,645,645 646,62D,645 646,62D,649 646,62C,645
    646,62C,645 646,62C,649 646,645,64A 646,645,649 64A,645,645 64A,645,645 628,62E,64A
    62A,62C,64A 62A,62C,649 62A,62E,64A 62A,62E,649 62A,645,64A 62A,645,649 62C,645,64A
    62C,62D,649 62C,645,649 633,62E,649 635,62D,64A 634,62D,64A 636,62D,64A 644,62C,64A
    644,645,64A 64A,62D,64A 64A,62C,64A 64A,645,64A 645,645,64A 642,645,64A 646,62D,64A
    642,645,62D 644,62D,645 639,645,64A 643,645,64A 646,62C,62D 645,62E,64A 644,62C,645
    643,645,645 644,62C,645 646,62C,62D 62C,62D,64A 62D,62C,64A 645,62C,64A 641,645,64A
    628,62D,64A 643,645,645 639,62C,645 635,645,645 633,62E,64A 646,62C,64A FDF0>635,644,6D2
    642,644,6D2 627,644,644,647 627,643,628,631 645,62D,645,62F 635,644,639,645 631,633,648,644
    639,644,64A,647 648,633,644,645 635,644,649
    635,644,649,20,627,644,644,647,20,639,644,64A,647,20,648,633,644,645
    62C,644,20,62C,644,627,644,647 631,6CC,627,644 FE10>2C 3001 FE13-FE14>3A 21 3F FE17-FE18>3016
    FE31>2014 2013 5F 5F FE35-FE36>28 7B 7D FE39-FE3A>3014 FE3B-FE3C>3010 FE3D-FE3E>300A
    FE3F-FE40>3008 FE41-FE44>300C FE47>5B 5D 20,305 20,305 20,305 20,305 5F 5F 5F 2C 3001 FE54>3B
    3A 3F 21 2014 FE59-FE5A>28 7B 7D FE5D-FE5E>3014 23 26 FE61-FE62>2A 2D 3C 3E 3D FE68>5C
    FE69-FE6A>24 40 FE70>20,64B 640,64B 20,64C FE74>20,64D FE76>20,64E 640,64E 20,64F 640,64F
    20,650 640,650 20,651 640,651 20,652 640,652 FE80-FE81>621 FE82-FE83>622 FE84-FE85>623
    FE86-FE87>624 FE88-FE89>625 626 626 FE8C-FE8D>626 FE8E-FE8F>627 628 628 FE92-FE93>628
    FE94-FE95>629 62A 62A FE98-FE99>62A 62B 62B FE9C-FE9D>62B 62C 62C FEA0-FEA1>62C 62D 62D
    FEA4-FEA5>62D 62E 62E FEA8-FEA9>62E FEAA-FEAB>62F FEAC-FEAD>630 FEAE-FEAF>631 FEB0-FEB1>632
    633 633 FEB4-FEB5>633 634 634 FEB8-FEB9>634 635 635 FEBC-FEBD>635 636 636 FEC0-FEC1>636 637
    637 FEC4-FEC5>637 638 638 FEC8-FEC9>638 639 639 FECC-FECD>639 63A 63A 63A 641 641 641
    FED4-FED5>641 642 642 FED8-FED9>642 643 643 FEDC-FEDD>643 644 644 FEE0-FEE1>644 645 645
    FEE4-FEE5>645 646 646 FEE8-FEE9>646 647 647 FEEC-FEED>647 FEEE-FEEF>648 FEF0-FEF1>649 64A 64A
    64A 644,622 644,622 644,623 644,623 644,625 644,625 644,627 644,627 FF01-FF20>21 FF21-FF3A>61
    FF3B-FF5E>5B FF5F-FF60>2985 2E FF62-FF63>300C 3001 30FB 30F2 30A1 30A3 30A5 30A7 30A9 30E3
    30E5 30E7 30C3 30FC 30A2 30A4 30A6 30A8 FF75-FF76>30AA 30AD 30AF 30B1 30B3 30B5 30B7 30B9 30BB
    30BD 30BF 30C1 30C4 30C6 30C8 FF85-FF8A>30CA 30D2 30D5 30D8 30DB FF8F-FF93>30DE 30E4 30E6
    FF96-FF9B>30E8 30EF 30F3 FF9E-FF9F>3099 FFA1-FFA2>1100 FFA3-FFA5/2>11AA FFA4>1102 FFA6>11AD
    FFA7-FFA9>1103 FFAA-FFAF>11B0 111A FFB1-FFB3>1106 1121 FFB5-FFBE>1109 FFC2-FFC7>1161
    FFCA-FFCF>1167 FFD2-FFD7>116D FFDA-FFDC>1173 FFE0-FFE1>A2 AC 20,304 A6 A5 20A9 FFE8>2502
    FFE9-FFEC>2190 25A0 25CB 10400-10427>10428 104B0-104D3>104D8 10570-10594/2>10597
    10571-10579/2>10598 1057D-10589/2>105A4 1058D-10591/2>105B4 10595>105BC 10781-10782>2D0 E6 299
    253 10787-10789/2>2A3 10788>AB66 1078A>2A4 1078B-1078C>256 1D91 258 25E 2A9 264 262 260 29B
    127 29C 267 284 10799-1079A>2AA 26C 1DF04 A78E 26E 1DF05 28E 1DF06 F8 107A3-107A4>276 71 27A
    1DF08 107A8-107A9>27D 280 2A8 2A6 AB67 2A7 288 2C71 107B2>28F 107B3-107B4>2A1 298
    107B6-107B8>1C0 1DF0A 1DF1E 10C80-10CB2>10CC0 10D50-10D65>10D70 118A0-118BF>118C0
    16E40-16E5F>16E60 16EA0-16EB8>16EBB 1CCD6-1CCEF>61 1CCF0-1CCF9>30 1D400-1D419>61
    1D41A-1D433>61 1D434-1D44D>61 1D44E-1D466/2>61 1D44F-1D453/2>62 1D457-1D467/2>6A
    1D468-1D481>61 1D482-1D49B>61 1D49C-1D49E/2>61 1D49F>64 1D4A2>67 1D4A5-1D4A6>6A 1D4A9-1D4AC>6E
    1D4AE-1D4B5>73 1D4B6-1D4B9>61 1D4BB-1D4CF/2>66 1D4BE-1D4C2/2>69 1D4C6-1D4CE/2>71
    1D4D0-1D4E9>61 1D4EA-1D503>61 1D504-1D505>61 1D507-1D50A>64 1D50D-1D514>6A 1D516-1D51C>73
    1D51E-1D537>61 1D538-1D539>61 1D53B-1D53E>64 1D540-1D544>69 1D546>6F 1D54A-1D550>73
    1D552-1D56B>61 1D56C-1D585>61 1D586-1D59F>61 1D5A0-1D5B9>61 1D5BA-1D5D3>61 1D5D4-1D5ED>61
    1D5EE-1D607>61 1D608-1D621>61 1D622-1D63B>61 1D63C-1D655>61 1D656-1D66F>61 1D670-1D689>61
    1D68A-1D6A3>61 131 237 1D6A8-1D6B8>3B1 3B8 1D6BA-1D6C0>3C3 2207 1D6C2-1D6D2>3B1 3C3
    1D6D4-1D6DA>3C3 2202 3B5 3B8 3BA 3C6 3C1 3C0 1D6E2-1D6F2>3B1 3B8 1D6F4-1D6FA>3C3 2207
    1D6FC-1D70C>3B1 3C3 1D70E-1D714>3C3 2202 3B5 3B8 3BA 3C6 3C1 3C0 1D71C-1D72C>3B1 3B8
    1D72E-1D734>3C3 2207 1D736-1D746>3B1 3C3 1D748-1D74E>3C3 2202 3B5 3B8 3BA 3C6 3C1 3C0
    1D756-1D766>3B1 3B8 1D768-1D76E>3C3 2207 1D770-1D780>3B1 3C3 1D782-1D788>3C3 2202 3B5 3B8 3BA
    3C6 3C1 3C0 1D790-1D7A0>3B1 3B8 1D7A2-1D7A8>3C3 2207 1D7AA-1D7BA>3B1 3C3 1D7BC-1D7C2>3C3 2202
    3B5 3B8 3BA 3C6 3C1 3C0 3DD 3DD 1D7CE-1D7D7>30 1D7D8-1D7E1>30 1D7E2-1D7EB>30 1D7EC-1D7F5>30
    1D7F6-1D7FF>30 1E030-1E038>430 1E039-1E03B>43A 1E03C-1E046>43E 44B 1E048-1E049>44D A689 4D9
    456 458 4E9 4AF 4CF 1E051-1E059>430 1E05A-1E05B>43A 1E05C-1E05D>43E 441 1E05F-1E064>443
    1E065-1E066>44A 491 456 455 45F 4AB A651 4B1 1E900-1E921>1E922 1EE00-1EE01>627 62C 62F
    1EE05>648 632 62D 637 64A 1EE0A-1EE0D>643 633 639 641 635 642 631 634 1EE15-1EE16>62A 62E 630
    636 638 63A 66E 6BA 6A1 66F 1EE21>628 62C 1EE24>647 1EE27>62D 1EE29>64A 1EE2A-1EE2D>643 633
    639 641 635 642 1EE34>634 1EE35-1EE36>62A 62E 1EE39>636 1EE3B>63A 1EE42>62C 1EE47>62D
    1EE49>64A 1EE4B-1EE4D/2>644 1EE4E>633 639 1EE51>635 642 1EE54>634 1EE57>62E 1EE59>636
    1EE5B>63A 1EE5D>6BA 1EE5F>66F 1EE61>628 62C 1EE64>647 1EE67>62D 637 64A 1EE6A-1EE6C/2>643
    1EE6D>646 633 639 641 635 642 1EE74>634 1EE75-1EE76>62A 62E 1EE79>636 638 63A 66E 1EE7E>6A1
    1EE80-1EE81>627 62C 62F 1EE84-1EE85>647 632 62D 637 64A 1EE8B-1EE8D>644 633 639 641 635 642
    631 634 1EE95-1EE96>62A 62E 630 636 638 63A 1EEA1>628 62C 62F 1EEA5>648 632 62D 637 64A
    1EEAB-1EEAD>644 633 639 641 635 642 631 634 1EEB5-1EEB6>62A 62E 630 636 638 63A 1F101>30,2C
    31,2C 32,2C 33,2C 34,2C 35,2C 36,2C 37,2C 38,2C 39,2C 1F110>28,61,29 28,62,29 28,63,29
    28,64,29 28,65,29 28,66,29 28,67,29 28,68,29 28,69,29 28,6A,29 28,6B,29 28,6C,29 28,6D,29
    28,6E,29 28,6F,29 28,70,29 28,71,29 28,72,29 28,73,29 28,74,29 28,75,29 28,76,29 28,77,29
    28,78,29 28,79,29 28,7A,29 3014,73,3015 63 72 63,64 77,7A 1F130-1F149>61 68,76 6D,76 73,64
    73,73 70,70,76 77,63 1F16A>6D,63 6D,64 6D,72 1F190>64,6A 1F200>307B,304B 30B3,30B3 30B5
    1F210>624B 5B57 53CC 30C7 4E8C 591A 89E3 5929 4EA4 6620 7121 6599 524D 5F8C 518D 65B0 521D
    7D42 751F 8CA9 58F0 5439 6F14 6295 6355 4E00 4E09 904A 5DE6 4E2D 53F3 6307 8D70 6253 7981 7A7A
    5408 6E80 6709 6708 7533 5272 55B6 914D 1F240>3014,672C,3015 3014,4E09,3015 3014,4E8C,3015
    3014,5B89,3015 3014,70B9,3015 3014,6253,3015 3014,76D7,3015 3014,52DD,3015 3014,6557,3015
    1F250>5F97 53EF 1FBF0-1FBF9>30"

/-- The characters that do not fold: controls, separators, private and unassigned code points. -/
def unfolded : List Table.Range :=
  Table.ranges
    "80-9F 378-379 380-383 38B 38D 3A2 530 557-558 58B-58C 590 5C8-5CF 5EB-5EE 5F5-605 61C 6DD
    70E-70F 74B-74C 7B2-7BF 7FB-7FC 82E-82F 83F 85C-85D 85F 86B-86F 890-896 8E2 984 98D-98E
    991-992 9A9 9B1 9B3-9B5 9BA-9BB 9C5-9C6 9C9-9CA 9CF-9D6 9D8-9DB 9DE 9E4-9E5 9FF-A00 A04
    A0B-A0E A11-A12 A29 A31 A34 A37 A3A-A3B A3D A43-A46 A49-A4A A4E-A50 A52-A58 A5D A5F-A65
    A77-A80 A84 A8E A92 AA9 AB1 AB4 ABA-ABB AC6 ACA ACE-ACF AD1-ADF AE4-AE5 AF2-AF8 B00 B04
    B0D-B0E B11-B12 B29 B31 B34 B3A-B3B B45-B46 B49-B4A B4E-B54 B58-B5B B5E B64-B65 B78-B81 B84
    B8B-B8D B91 B96-B98 B9B B9D BA0-BA2 BA5-BA7 BAB-BAD BBA-BBD BC3-BC5 BC9 BCE-BCF BD1-BD6
    BD8-BE5 BFB-BFF C0D C11 C29 C3A-C3B C45 C49 C4E-C54 C57 C5B C5E-C5F C64-C65 C70-C76 C8D C91
    CA9 CB4 CBA-CBB CC5 CC9 CCE-CD4 CD7-CDB CDF CE4-CE5 CF0 CF4-CFF D0D D11 D45 D49 D50-D53
    D64-D65 D80 D84 D97-D99 DB2 DBC DBE-DBF DC7-DC9 DCB-DCE DD5 DD7 DE0-DE5 DF0-DF1 DF5-E00
    E3B-E3E E5C-E80 E83 E85 E8B EA4 EA6 EBE-EBF EC5 EC7 ECF EDA-EDB EE0-EFF F48 F6D-F70 F98 FBD
    FCD FDB-FFF 10C6 10C8-10CC 10CE-10CF 1249 124E-124F 1257 1259 125E-125F 1289 128E-128F 12B1
    12B6-12B7 12BF 12C1 12C6-12C7 12D7 1311 1316-1317 135B-135C 137D-137F 139A-139F 13F6-13F7
    13FE-13FF 1680 169D-169F 16F9-16FF 1716-171E 1737-173F 1754-175F 176D 1771 1774-177F 17DE-17DF
    17EA-17EF 17FA-17FF 181A-181F 1879-187F 18AB-18AF 18F6-18FF 191F 192C-192F 193C-193F 1941-1943
    196E-196F 1975-197F 19AC-19AF 19CA-19CF 19DB-19DD 1A1C-1A1D 1A5F 1A7D-1A7E 1A8A-1A8F 1A9A-1A9F
    1AAE-1AAF 1ADE-1ADF 1AEC-1AFF 1B4D 1BF4-1BFB 1C38-1C3A 1C4A-1C4C 1C8B-1C8F 1CBB-1CBC 1CC8-1CCF
    1CFB-1CFF 1F16-1F17 1F1E-1F1F 1F46-1F47 1F4E-1F4F 1F58 1F5A 1F5C 1F5E 1F7E-1F7F 1FB5 1FC5
    1FD4-1FD5 1FDC 1FF0-1FF1 1FF5 1FFF 200E-200F 2024-2026 2028-202E 2065-2069 2072-2073 208F
    209D-209F 20C2-20CF 20F1-20FF 218C-218F 242A-243F 244B-245F 2488-249B 2B74-2B75 2CF4-2CF8 2D26
    2D28-2D2C 2D2E-2D2F 2D68-2D6E 2D71-2D7E 2D97-2D9F 2DA7 2DAF 2DB7 2DBF 2DC7 2DCF 2DD7 2DDF
    2E5E-2E7F 2E9A 2EF4-2EFF 2FD6-2FFF 3040 3097-3098 3100-3104 3130 318F 31E6-31EF 321F 33C2 33C7
    33D8 A48D-A48F A4C7-A4CF A62C-A63F A6F8-A6FF A7DD-A7F0 A82D-A82F A83A-A83F A878-A87F A8C6-A8CD
    A8DA-A8DF A954-A95E A97D-A97F A9CE A9DA-A9DD A9FF AA37-AA3F AA4E-AA4F AA5A-AA5B AAC3-AADA
    AAF7-AB00 AB07-AB08 AB0F-AB10 AB17-AB1F AB27 AB2F AB6C-AB6F ABEE-ABEF ABFA-ABFF D7A4-D7AF
    D7C7-D7CA D7FC-D7FF E000-F8FF FA6E-FA6F FADA-FAFF FB07-FB12 FB18-FB1C FB37 FB3D FB3F FB42 FB45
    FDD0-FDEF FE12 FE19-FE1F FE30 FE52-FE53 FE67 FE6C-FE6F FE75 FEFD-FEFE FF00 FFBF-FFC1 FFC8-FFC9
    FFD0-FFD1 FFD8-FFD9 FFDD-FFDF FFE7 FFEF-FFFF 1000C 10027 1003B 1003E 1004E-1004F 1005E-1007F
    100FB-100FF 10103-10106 10134-10136 1018F 1019D-1019F 101A1-101CF 101FE-1027F 1029D-1029F
    102D1-102DF 102FC-102FF 10324-1032C 1034B-1034F 1037B-1037F 1039E 103C4-103C7 103D6-103FF
    1049E-1049F 104AA-104AF 104D4-104D7 104FC-104FF 10528-1052F 10564-1056E 1057B 1058B 10593
    10596 105A2 105B2 105BA 105BD-105BF 105F4-105FF 10737-1073F 10756-1075F 10768-1077F 10786
    107B1 107BB-107FF 10806-10807 10809 10836 10839-1083B 1083D-1083E 10856 1089F-108A6
    108B0-108DF 108F3 108F6-108FA 1091C-1091E 1093A-1093E 1095A-1097F 109B8-109BB 109D0-109D1
    10A04 10A07-10A0B 10A14 10A18 10A36-10A37 10A3B-10A3E 10A49-10A4F 10A59-10A5F 10AA0-10ABF
    10AE7-10AEA 10AF7-10AFF 10B36-10B38 10B56-10B57 10B73-10B77 10B92-10B98 10B9D-10BA8
    10BB0-10BFF 10C49-10C7F 10CB3-10CBF 10CF3-10CF9 10D28-10D2F 10D3A-10D3F 10D66-10D68
    10D86-10D8D 10D90-10E5F 10E7F 10EAA 10EAE-10EAF 10EB2-10EC1 10EC8-10ECF 10ED9-10EF9
    10F28-10F2F 10F5A-10F6F 10F8A-10FAF 10FCC-10FDF 10FF7-10FFF 1104E-11051 11076-1107E 110BD
    110C3-110CF 110E9-110EF 110FA-110FF 11135 11148-1114F 11177-1117F 111E0 111F5-111FF 11212
    11242-1127F 11287 11289 1128E 1129E 112AA-112AF 112EB-112EF 112FA-112FF 11304 1130D-1130E
    11311-11312 11329 11331 11334 1133A 11345-11346 11349-1134A 1134E-1134F 11351-11356
    11358-1135C 11364-11365 1136D-1136F 11375-1137F 1138A 1138C-1138D 1138F 113B6 113C1
    113C3-113C4 113C6 113CB 113D6 113D9-113E0 113E3-113FF 1145C 11462-1147F 114C8-114CF
    114DA-1157F 115B6-115B7 115DE-115FF 11645-1164F 1165A-1165F 1166D-1167F 116BA-116BF
    116CA-116CF 116E4-116FF 1171B-1171C 1172C-1172F 11747-117FF 1183C-1189F 118F3-118FE
    11907-11908 1190A-1190B 11914 11917 11936 11939-1193A 11947-1194F 1195A-1199F 119A8-119A9
    119D8-119D9 119E5-119FF 11A48-11A4F 11AA3-11AAF 11AF9-11AFF 11B0A-11B5F 11B68-11BBF
    11BE2-11BEF 11BFA-11BFF 11C09 11C37 11C46-11C4F 11C6D-11C6F 11C90-11C91 11CA8 11CB7-11CFF
    11D07 11D0A 11D37-11D39 11D3B 11D3E 11D48-11D4F 11D5A-11D5F 11D66 11D69 11D8F 11D92
    11D99-11D9F 11DAA-11DAF 11DDC-11DDF 11DEA-11EDF 11EF9-11EFF 11F11 11F3B-11F3D 11F5B-11FAF
    11FB1-11FBF 11FF2-11FFE 1239A-123FF 1246F 12475-1247F 12544-12F8F 12FF3-12FFF 13430-1343F
    13456-1345F 143FB-143FF 14647-160FF 1613A-167FF 16A39-16A3F 16A5F 16A6A-16A6D 16ABF
    16ACA-16ACF 16AEE-16AEF 16AF6-16AFF 16B46-16B4F 16B5A 16B62 16B78-16B7C 16B90-16D3F
    16D7A-16E3F 16E9B-16E9F 16EB9-16EBA 16ED4-16EFF 16F4B-16F4E 16F88-16F8E 16FA0-16FDF
    16FE5-16FEF 16FF7-16FFF 18CD6-18CFE 18D1F-18D7F 18DF3-1AFEF 1AFF4 1AFFC 1AFFF 1B123-1B131
    1B133-1B14F 1B153-1B154 1B156-1B163 1B168-1B16F 1B2FC-1BBFF 1BC6B-1BC6F 1BC7D-1BC7F
    1BC89-1BC8F 1BC9A-1BC9B 1BCA4-1CBFF 1CCFD-1CCFF 1CEB4-1CEB9 1CED1-1CEDF 1CEF1-1CEFF
    1CF2E-1CF2F 1CF47-1CF4F 1CFC4-1CFFF 1D0F6-1D0FF 1D127-1D128 1D1EB-1D1FF 1D246-1D2BF
    1D2D4-1D2DF 1D2F4-1D2FF 1D357-1D35F 1D379-1D3FF 1D455 1D49D 1D4A0-1D4A1 1D4A3-1D4A4
    1D4A7-1D4A8 1D4AD 1D4BA 1D4BC 1D4C4 1D506 1D50B-1D50C 1D515 1D51D 1D53A 1D53F 1D545
    1D547-1D549 1D551 1D6A6-1D6A7 1D7CC-1D7CD 1DA8C-1DA9A 1DAA0 1DAB0-1DEFF 1DF1F-1DF24
    1DF2B-1DFFF 1E007 1E019-1E01A 1E022 1E025 1E02B-1E02F 1E06E-1E08E 1E090-1E0FF 1E12D-1E12F
    1E13E-1E13F 1E14A-1E14D 1E150-1E28F 1E2AF-1E2BF 1E2FA-1E2FE 1E300-1E4CF 1E4FA-1E5CF
    1E5FB-1E5FE 1E600-1E6BF 1E6DF 1E6F6-1E6FD 1E700-1E7DF 1E7E7 1E7EC 1E7EF 1E7FF 1E8C5-1E8C6
    1E8D7-1E8FF 1E94C-1E94F 1E95A-1E95D 1E960-1EC70 1ECB5-1ED00 1ED3E-1EDFF 1EE04 1EE20 1EE23
    1EE25-1EE26 1EE28 1EE33 1EE38 1EE3A 1EE3C-1EE41 1EE43-1EE46 1EE48 1EE4A 1EE4C 1EE50 1EE53
    1EE55-1EE56 1EE58 1EE5A 1EE5C 1EE5E 1EE60 1EE63 1EE65-1EE66 1EE6B 1EE73 1EE78 1EE7D 1EE7F
    1EE8A 1EE9C-1EEA0 1EEA4 1EEAA 1EEBC-1EEEF 1EEF2-1EFFF 1F02C-1F02F 1F094-1F09F 1F0AF-1F0B0
    1F0C0 1F0D0 1F0F6-1F100 1F1AE-1F1E5 1F203-1F20F 1F23C-1F23F 1F249-1F24F 1F252-1F25F
    1F266-1F2FF 1F6D9-1F6DB 1F6ED-1F6EF 1F6FD-1F6FF 1F7DA-1F7DF 1F7EC-1F7EF 1F7F1-1F7FF
    1F80C-1F80F 1F848-1F84F 1F85A-1F85F 1F888-1F88F 1F8AE-1F8AF 1F8BC-1F8BF 1F8C2-1F8CF
    1F8D9-1F8FF 1FA58-1FA5F 1FA6E-1FA6F 1FA7D-1FA7F 1FA8B-1FA8D 1FAC7 1FAC9-1FACC 1FADD-1FADE
    1FAEB-1FAEE 1FAF9-1FAFF 1FB93 1FBFB-1FFFF 2A6E0-2A6FF 2B81E-2B81F 2CEAE-2CEAF 2EBE1-2EBEF
    2EE5E-2F7FF 2FA1E-2FFFF 3134B-3134F 3347A-E00FF E01F0-10FFFF"

end PanelProbe.Text
