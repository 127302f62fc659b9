import RankedRetrieval.Unicode.Decomposition

/-!
# Canonical composition

The character that a pair of characters composes to.

## Main Definitions

* `Unicode.compose?` — the primary composite of two characters
-/

namespace RankedRetrieval.Unicode

/-- The primary composites, by the number of the pair that composes to them. -/
def compositions : CodeTable := CodeTable.ofText "
3C000338:226E 3D000338:2260 3E000338:226F 41000300:C0 41000301:C1 41000302:C2 41000303:C3
41000304:100 41000306:102 41000307:226 41000308:C4 41000309:1EA2 4100030A:C5 4100030C:1CD
4100030F:200 41000311:202 41000323:1EA0 41000325:1E00 41000328:104 42000307:1E02 42000323:1E04
42000331:1E06 43000301:106 43000302:108 43000307:10A 4300030C:10C 43000327:C7 44000307:1E0A
4400030C:10E 44000323:1E0C 44000327:1E10 4400032D:1E12 44000331:1E0E 45000300:C8 45000301:C9
45000302:CA 45000303:1EBC 45000304:112 45000306:114 45000307:116 45000308:CB 45000309:1EBA
4500030C:11A 4500030F:204 45000311:206 45000323:1EB8 45000327:228 45000328:118 4500032D:1E18
45000330:1E1A 46000307:1E1E 47000301:1F4 47000302:11C 47000304:1E20 47000306:11E 47000307:120
4700030C:1E6 47000327:122 48000302:124 48000307:1E22 48000308:1E26 4800030C:21E 48000323:1E24
48000327:1E28 4800032E:1E2A 49000300:CC 49000301:CD 49000302:CE 49000303:128 49000304:12A
49000306:12C 49000307:130 49000308:CF 49000309:1EC8 4900030C:1CF 4900030F:208 49000311:20A
49000323:1ECA 49000328:12E 49000330:1E2C 4A000302:134 4B000301:1E30 4B00030C:1E8 4B000323:1E32
4B000327:136 4B000331:1E34 4C000301:139 4C00030C:13D 4C000323:1E36 4C000327:13B 4C00032D:1E3C
4C000331:1E3A 4D000301:1E3E 4D000307:1E40 4D000323:1E42 4E000300:1F8 4E000301:143 4E000303:D1
4E000307:1E44 4E00030C:147 4E000323:1E46 4E000327:145 4E00032D:1E4A 4E000331:1E48 4F000300:D2
4F000301:D3 4F000302:D4 4F000303:D5 4F000304:14C 4F000306:14E 4F000307:22E 4F000308:D6
4F000309:1ECE 4F00030B:150 4F00030C:1D1 4F00030F:20C 4F000311:20E 4F00031B:1A0 4F000323:1ECC
4F000328:1EA 50000301:1E54 50000307:1E56 52000301:154 52000307:1E58 5200030C:158 5200030F:210
52000311:212 52000323:1E5A 52000327:156 52000331:1E5E 53000301:15A 53000302:15C 53000307:1E60
5300030C:160 53000323:1E62 53000326:218 53000327:15E 54000307:1E6A 5400030C:164 54000323:1E6C
54000326:21A 54000327:162 5400032D:1E70 54000331:1E6E 55000300:D9 55000301:DA 55000302:DB
55000303:168 55000304:16A 55000306:16C 55000308:DC 55000309:1EE6 5500030A:16E 5500030B:170
5500030C:1D3 5500030F:214 55000311:216 5500031B:1AF 55000323:1EE4 55000324:1E72 55000328:172
5500032D:1E76 55000330:1E74 56000303:1E7C 56000323:1E7E 57000300:1E80 57000301:1E82 57000302:174
57000307:1E86 57000308:1E84 57000323:1E88 58000307:1E8A 58000308:1E8C 59000300:1EF2 59000301:DD
59000302:176 59000303:1EF8 59000304:232 59000307:1E8E 59000308:178 59000309:1EF6 59000323:1EF4
5A000301:179 5A000302:1E90 5A000307:17B 5A00030C:17D 5A000323:1E92 5A000331:1E94 61000300:E0
61000301:E1 61000302:E2 61000303:E3 61000304:101 61000306:103 61000307:227 61000308:E4
61000309:1EA3 6100030A:E5 6100030C:1CE 6100030F:201 61000311:203 61000323:1EA1 61000325:1E01
61000328:105 62000307:1E03 62000323:1E05 62000331:1E07 63000301:107 63000302:109 63000307:10B
6300030C:10D 63000327:E7 64000307:1E0B 6400030C:10F 64000323:1E0D 64000327:1E11 6400032D:1E13
64000331:1E0F 65000300:E8 65000301:E9 65000302:EA 65000303:1EBD 65000304:113 65000306:115
65000307:117 65000308:EB 65000309:1EBB 6500030C:11B 6500030F:205 65000311:207 65000323:1EB9
65000327:229 65000328:119 6500032D:1E19 65000330:1E1B 66000307:1E1F 67000301:1F5 67000302:11D
67000304:1E21 67000306:11F 67000307:121 6700030C:1E7 67000327:123 68000302:125 68000307:1E23
68000308:1E27 6800030C:21F 68000323:1E25 68000327:1E29 6800032E:1E2B 68000331:1E96 69000300:EC
69000301:ED 69000302:EE 69000303:129 69000304:12B 69000306:12D 69000308:EF 69000309:1EC9
6900030C:1D0 6900030F:209 69000311:20B 69000323:1ECB 69000328:12F 69000330:1E2D 6A000302:135
6A00030C:1F0 6B000301:1E31 6B00030C:1E9 6B000323:1E33 6B000327:137 6B000331:1E35 6C000301:13A
6C00030C:13E 6C000323:1E37 6C000327:13C 6C00032D:1E3D 6C000331:1E3B 6D000301:1E3F 6D000307:1E41
6D000323:1E43 6E000300:1F9 6E000301:144 6E000303:F1 6E000307:1E45 6E00030C:148 6E000323:1E47
6E000327:146 6E00032D:1E4B 6E000331:1E49 6F000300:F2 6F000301:F3 6F000302:F4 6F000303:F5
6F000304:14D 6F000306:14F 6F000307:22F 6F000308:F6 6F000309:1ECF 6F00030B:151 6F00030C:1D2
6F00030F:20D 6F000311:20F 6F00031B:1A1 6F000323:1ECD 6F000328:1EB 70000301:1E55 70000307:1E57
72000301:155 72000307:1E59 7200030C:159 7200030F:211 72000311:213 72000323:1E5B 72000327:157
72000331:1E5F 73000301:15B 73000302:15D 73000307:1E61 7300030C:161 73000323:1E63 73000326:219
73000327:15F 74000307:1E6B 74000308:1E97 7400030C:165 74000323:1E6D 74000326:21B 74000327:163
7400032D:1E71 74000331:1E6F 75000300:F9 75000301:FA 75000302:FB 75000303:169 75000304:16B
75000306:16D 75000308:FC 75000309:1EE7 7500030A:16F 7500030B:171 7500030C:1D4 7500030F:215
75000311:217 7500031B:1B0 75000323:1EE5 75000324:1E73 75000328:173 7500032D:1E77 75000330:1E75
76000303:1E7D 76000323:1E7F 77000300:1E81 77000301:1E83 77000302:175 77000307:1E87 77000308:1E85
7700030A:1E98 77000323:1E89 78000307:1E8B 78000308:1E8D 79000300:1EF3 79000301:FD 79000302:177
79000303:1EF9 79000304:233 79000307:1E8F 79000308:FF 79000309:1EF7 7900030A:1E99 79000323:1EF5
7A000301:17A 7A000302:1E91 7A000307:17C 7A00030C:17E 7A000323:1E93 7A000331:1E95 A8000300:1FED
A8000301:385 A8000342:1FC1 C2000300:1EA6 C2000301:1EA4 C2000303:1EAA C2000309:1EA8 C4000304:1DE
C5000301:1FA C6000301:1FC C6000304:1E2 C7000301:1E08 CA000300:1EC0 CA000301:1EBE CA000303:1EC4
CA000309:1EC2 CF000301:1E2E D4000300:1ED2 D4000301:1ED0 D4000303:1ED6 D4000309:1ED4 D5000301:1E4C
D5000304:22C D5000308:1E4E D6000304:22A D8000301:1FE DC000300:1DB DC000301:1D7 DC000304:1D5
DC00030C:1D9 E2000300:1EA7 E2000301:1EA5 E2000303:1EAB E2000309:1EA9 E4000304:1DF E5000301:1FB
E6000301:1FD E6000304:1E3 E7000301:1E09 EA000300:1EC1 EA000301:1EBF EA000303:1EC5 EA000309:1EC3
EF000301:1E2F F4000300:1ED3 F4000301:1ED1 F4000303:1ED7 F4000309:1ED5 F5000301:1E4D F5000304:22D
F5000308:1E4F F6000304:22B F8000301:1FF FC000300:1DC FC000301:1D8 FC000304:1D6 FC00030C:1DA
102000300:1EB0 102000301:1EAE 102000303:1EB4 102000309:1EB2 103000300:1EB1 103000301:1EAF
103000303:1EB5 103000309:1EB3 112000300:1E14 112000301:1E16 113000300:1E15 113000301:1E17
14C000300:1E50 14C000301:1E52 14D000300:1E51 14D000301:1E53 15A000307:1E64 15B000307:1E65
160000307:1E66 161000307:1E67 168000301:1E78 169000301:1E79 16A000308:1E7A 16B000308:1E7B
17F000307:1E9B 1A0000300:1EDC 1A0000301:1EDA 1A0000303:1EE0 1A0000309:1EDE 1A0000323:1EE2
1A1000300:1EDD 1A1000301:1EDB 1A1000303:1EE1 1A1000309:1EDF 1A1000323:1EE3 1AF000300:1EEA
1AF000301:1EE8 1AF000303:1EEE 1AF000309:1EEC 1AF000323:1EF0 1B0000300:1EEB 1B0000301:1EE9
1B0000303:1EEF 1B0000309:1EED 1B0000323:1EF1 1B700030C:1EE 1EA000304:1EC 1EB000304:1ED
226000304:1E0 227000304:1E1 228000306:1E1C 229000306:1E1D 22E000304:230 22F000304:231
29200030C:1EF 391000300:1FBA 391000301:386 391000304:1FB9 391000306:1FB8 391000313:1F08
391000314:1F09 391000345:1FBC 395000300:1FC8 395000301:388 395000313:1F18 395000314:1F19
397000300:1FCA 397000301:389 397000313:1F28 397000314:1F29 397000345:1FCC 399000300:1FDA
399000301:38A 399000304:1FD9 399000306:1FD8 399000308:3AA 399000313:1F38 399000314:1F39
39F000300:1FF8 39F000301:38C 39F000313:1F48 39F000314:1F49 3A1000314:1FEC 3A5000300:1FEA
3A5000301:38E 3A5000304:1FE9 3A5000306:1FE8 3A5000308:3AB 3A5000314:1F59 3A9000300:1FFA
3A9000301:38F 3A9000313:1F68 3A9000314:1F69 3A9000345:1FFC 3AC000345:1FB4 3AE000345:1FC4
3B1000300:1F70 3B1000301:3AC 3B1000304:1FB1 3B1000306:1FB0 3B1000313:1F00 3B1000314:1F01
3B1000342:1FB6 3B1000345:1FB3 3B5000300:1F72 3B5000301:3AD 3B5000313:1F10 3B5000314:1F11
3B7000300:1F74 3B7000301:3AE 3B7000313:1F20 3B7000314:1F21 3B7000342:1FC6 3B7000345:1FC3
3B9000300:1F76 3B9000301:3AF 3B9000304:1FD1 3B9000306:1FD0 3B9000308:3CA 3B9000313:1F30
3B9000314:1F31 3B9000342:1FD6 3BF000300:1F78 3BF000301:3CC 3BF000313:1F40 3BF000314:1F41
3C1000313:1FE4 3C1000314:1FE5 3C5000300:1F7A 3C5000301:3CD 3C5000304:1FE1 3C5000306:1FE0
3C5000308:3CB 3C5000313:1F50 3C5000314:1F51 3C5000342:1FE6 3C9000300:1F7C 3C9000301:3CE
3C9000313:1F60 3C9000314:1F61 3C9000342:1FF6 3C9000345:1FF3 3CA000300:1FD2 3CA000301:390
3CA000342:1FD7 3CB000300:1FE2 3CB000301:3B0 3CB000342:1FE7 3CE000345:1FF4 3D2000301:3D3
3D2000308:3D4 406000308:407 410000306:4D0 410000308:4D2 413000301:403 415000300:400 415000306:4D6
415000308:401 416000306:4C1 416000308:4DC 417000308:4DE 418000300:40D 418000304:4E2 418000306:419
418000308:4E4 41A000301:40C 41E000308:4E6 423000304:4EE 423000306:40E 423000308:4F0 42300030B:4F2
427000308:4F4 42B000308:4F8 42D000308:4EC 430000306:4D1 430000308:4D3 433000301:453 435000300:450
435000306:4D7 435000308:451 436000306:4C2 436000308:4DD 437000308:4DF 438000300:45D 438000304:4E3
438000306:439 438000308:4E5 43A000301:45C 43E000308:4E7 443000304:4EF 443000306:45E 443000308:4F1
44300030B:4F3 447000308:4F5 44B000308:4F9 44D000308:4ED 456000308:457 47400030F:476 47500030F:477
4D8000308:4DA 4D9000308:4DB 4E8000308:4EA 4E9000308:4EB 627000653:622 627000654:623 627000655:625
648000654:624 64A000654:626 6C1000654:6C2 6D2000654:6D3 6D5000654:6C0 92800093C:929 93000093C:931
93300093C:934 9C70009BE:9CB 9C70009D7:9CC B47000B3E:B4B B47000B56:B48 B47000B57:B4C B92000BD7:B94
BC6000BBE:BCA BC6000BD7:BCC BC7000BBE:BCB C46000C56:C48 CBF000CD5:CC0 CC6000CC2:CCA CC6000CD5:CC7
CC6000CD6:CC8 CCA000CD5:CCB D46000D3E:D4A D46000D57:D4C D47000D3E:D4B DD9000DCA:DDA DD9000DCF:DDC
DD9000DDF:DDE DDC000DCA:DDD 102500102E:1026 1B05001B35:1B06 1B07001B35:1B08 1B09001B35:1B0A
1B0B001B35:1B0C 1B0D001B35:1B0E 1B11001B35:1B12 1B3A001B35:1B3B 1B3C001B35:1B3D 1B3E001B35:1B40
1B3F001B35:1B41 1B42001B35:1B43 1E36000304:1E38 1E37000304:1E39 1E5A000304:1E5C 1E5B000304:1E5D
1E62000307:1E68 1E63000307:1E69 1EA0000302:1EAC 1EA0000306:1EB6 1EA1000302:1EAD 1EA1000306:1EB7
1EB8000302:1EC6 1EB9000302:1EC7 1ECC000302:1ED8 1ECD000302:1ED9 1F00000300:1F02 1F00000301:1F04
1F00000342:1F06 1F00000345:1F80 1F01000300:1F03 1F01000301:1F05 1F01000342:1F07 1F01000345:1F81
1F02000345:1F82 1F03000345:1F83 1F04000345:1F84 1F05000345:1F85 1F06000345:1F86 1F07000345:1F87
1F08000300:1F0A 1F08000301:1F0C 1F08000342:1F0E 1F08000345:1F88 1F09000300:1F0B 1F09000301:1F0D
1F09000342:1F0F 1F09000345:1F89 1F0A000345:1F8A 1F0B000345:1F8B 1F0C000345:1F8C 1F0D000345:1F8D
1F0E000345:1F8E 1F0F000345:1F8F 1F10000300:1F12 1F10000301:1F14 1F11000300:1F13 1F11000301:1F15
1F18000300:1F1A 1F18000301:1F1C 1F19000300:1F1B 1F19000301:1F1D 1F20000300:1F22 1F20000301:1F24
1F20000342:1F26 1F20000345:1F90 1F21000300:1F23 1F21000301:1F25 1F21000342:1F27 1F21000345:1F91
1F22000345:1F92 1F23000345:1F93 1F24000345:1F94 1F25000345:1F95 1F26000345:1F96 1F27000345:1F97
1F28000300:1F2A 1F28000301:1F2C 1F28000342:1F2E 1F28000345:1F98 1F29000300:1F2B 1F29000301:1F2D
1F29000342:1F2F 1F29000345:1F99 1F2A000345:1F9A 1F2B000345:1F9B 1F2C000345:1F9C 1F2D000345:1F9D
1F2E000345:1F9E 1F2F000345:1F9F 1F30000300:1F32 1F30000301:1F34 1F30000342:1F36 1F31000300:1F33
1F31000301:1F35 1F31000342:1F37 1F38000300:1F3A 1F38000301:1F3C 1F38000342:1F3E 1F39000300:1F3B
1F39000301:1F3D 1F39000342:1F3F 1F40000300:1F42 1F40000301:1F44 1F41000300:1F43 1F41000301:1F45
1F48000300:1F4A 1F48000301:1F4C 1F49000300:1F4B 1F49000301:1F4D 1F50000300:1F52 1F50000301:1F54
1F50000342:1F56 1F51000300:1F53 1F51000301:1F55 1F51000342:1F57 1F59000300:1F5B 1F59000301:1F5D
1F59000342:1F5F 1F60000300:1F62 1F60000301:1F64 1F60000342:1F66 1F60000345:1FA0 1F61000300:1F63
1F61000301:1F65 1F61000342:1F67 1F61000345:1FA1 1F62000345:1FA2 1F63000345:1FA3 1F64000345:1FA4
1F65000345:1FA5 1F66000345:1FA6 1F67000345:1FA7 1F68000300:1F6A 1F68000301:1F6C 1F68000342:1F6E
1F68000345:1FA8 1F69000300:1F6B 1F69000301:1F6D 1F69000342:1F6F 1F69000345:1FA9 1F6A000345:1FAA
1F6B000345:1FAB 1F6C000345:1FAC 1F6D000345:1FAD 1F6E000345:1FAE 1F6F000345:1FAF 1F70000345:1FB2
1F74000345:1FC2 1F7C000345:1FF2 1FB6000345:1FB7 1FBF000300:1FCD 1FBF000301:1FCE 1FBF000342:1FCF
1FC6000345:1FC7 1FF6000345:1FF7 1FFE000300:1FDD 1FFE000301:1FDE 1FFE000342:1FDF 2190000338:219A
2192000338:219B 2194000338:21AE 21D0000338:21CD 21D2000338:21CF 21D4000338:21CE 2203000338:2204
2208000338:2209 220B000338:220C 2223000338:2224 2225000338:2226 223C000338:2241 2243000338:2244
2245000338:2247 2248000338:2249 224D000338:226D 2261000338:2262 2264000338:2270 2265000338:2271
2272000338:2274 2273000338:2275 2276000338:2278 2277000338:2279 227A000338:2280 227B000338:2281
227C000338:22E0 227D000338:22E1 2282000338:2284 2283000338:2285 2286000338:2288 2287000338:2289
2291000338:22E2 2292000338:22E3 22A2000338:22AC 22A8000338:22AD 22A9000338:22AE 22AB000338:22AF
22B2000338:22EA 22B3000338:22EB 22B4000338:22EC 22B5000338:22ED 3046003099:3094 304B003099:304C
304D003099:304E 304F003099:3050 3051003099:3052 3053003099:3054 3055003099:3056 3057003099:3058
3059003099:305A 305B003099:305C 305D003099:305E 305F003099:3060 3061003099:3062 3064003099:3065
3066003099:3067 3068003099:3069 306F003099:3070 306F00309A:3071 3072003099:3073 307200309A:3074
3075003099:3076 307500309A:3077 3078003099:3079 307800309A:307A 307B003099:307C 307B00309A:307D
309D003099:309E 30A6003099:30F4 30AB003099:30AC 30AD003099:30AE 30AF003099:30B0 30B1003099:30B2
30B3003099:30B4 30B5003099:30B6 30B7003099:30B8 30B9003099:30BA 30BB003099:30BC 30BD003099:30BE
30BF003099:30C0 30C1003099:30C2 30C4003099:30C5 30C6003099:30C7 30C8003099:30C9 30CF003099:30D0
30CF00309A:30D1 30D2003099:30D3 30D200309A:30D4 30D5003099:30D6 30D500309A:30D7 30D8003099:30D9
30D800309A:30DA 30DB003099:30DC 30DB00309A:30DD 30EF003099:30F7 30F0003099:30F8 30F1003099:30F9
30F2003099:30FA 30FD003099:30FE 105D2000307:105C9 105DA000307:105E4 110990110BA:1109A
1109B0110BA:1109C 110A50110BA:110AB 11131011127:1112E 11132011127:1112F 1134701133E:1134B
11347011357:1134C 113820113C9:11383 113840113BB:11385 1138B0113C2:1138E 113900113C9:11391
113C20113B8:113C7 113C20113C2:113C5 113C20113C9:113C8 114B90114B0:114BC 114B90114BA:114BB
114B90114BD:114BE 115B80115AF:115BA 115B90115AF:115BB 11935011930:11938 1611E01611E:16121
1611E01611F:16123 1611E016120:16125 1611E016129:16122 1612101611F:16126 16121016120:16128
1612201611F:16127 1612901611F:16124 16D63016D67:16D69 16D67016D67:16D68 16D69016D67:16D6A
"

/-- The number of a pair of code points. -/
def pairNumber (first second : Nat) : Nat :=
  first * 0x1000000 + second

/-- The syllable of a leading consonant and a vowel, or of a syllable without a trailing
consonant and a trailing consonant. -/
def composeHangul? (first second : Nat) : Option Nat :=
  if hangulLeading ≤ first && first < hangulLeading + hangulLeadingCount
      && hangulVowel ≤ second && second < hangulVowel + hangulVowelCount then
    some (hangulSyllable
      + ((first - hangulLeading) * hangulVowelCount + (second - hangulVowel)) * hangulTrailingCount)
  else if isHangulSyllable first && (first - hangulSyllable) % hangulTrailingCount = 0
      && hangulTrailing < second && second < hangulTrailing + hangulTrailingCount then
    some (first + (second - hangulTrailing))
  else none

/-- The primary composite of two characters.  No composite has a second character below
`U+0300`. -/
def compose? (first second : Char) : Option Char :=
  if second.toNat < 0x300 then none
  else
    match composeHangul? first.toNat second.toNat with
    | some code => some (Char.ofNat code)
    | none =>
      ((compositions.find? (pairNumber first.toNat second.toNat)).bind fun run =>
        run.values.head?).map Char.ofNat

end RankedRetrieval.Unicode
