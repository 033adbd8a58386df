import ProtocolGateway.Text.Runs

/-!
Canonical decompositions and combining classes of characters, the data of composed normal form.
-/

namespace ProtocolGateway.Text

/-- Every character with a canonical decomposition, as the distance from the one before, then `C` if
the pair composes again or `D` if it does not, then the parts. -/
def decompositionList : String := "
c0C41.300 1C41.301 1C41.302 1C41.303 1C41.308 1C41.30a 2C43.327 1C45.300 1C45.301 1C45.302
1C45.308 1C49.300 1C49.301 1C49.302 1C49.308 2C4e.303 1C4f.300 1C4f.301 1C4f.302 1C4f.303
1C4f.308 3C55.300 1C55.301 1C55.302 1C55.308 1C59.301 3C61.300 1C61.301 1C61.302 1C61.303
1C61.308 1C61.30a 2C63.327 1C65.300 1C65.301 1C65.302 1C65.308 1C69.300 1C69.301 1C69.302
1C69.308 2C6e.303 1C6f.300 1C6f.301 1C6f.302 1C6f.303 1C6f.308 3C75.300 1C75.301 1C75.302
1C75.308 1C79.301 2C79.308 1C41.304 1C61.304 1C41.306 1C61.306 1C41.328 1C61.328 1C43.301
1C63.301 1C43.302 1C63.302 1C43.307 1C63.307 1C43.30c 1C63.30c 1C44.30c 1C64.30c 3C45.304
1C65.304 1C45.306 1C65.306 1C45.307 1C65.307 1C45.328 1C65.328 1C45.30c 1C65.30c 1C47.302
1C67.302 1C47.306 1C67.306 1C47.307 1C67.307 1C47.327 1C67.327 1C48.302 1C68.302 3C49.303
1C69.303 1C49.304 1C69.304 1C49.306 1C69.306 1C49.328 1C69.328 1C49.307 4C4a.302 1C6a.302
1C4b.327 1C6b.327 2C4c.301 1C6c.301 1C4c.327 1C6c.327 1C4c.30c 1C6c.30c 5C4e.301 1C6e.301
1C4e.327 1C6e.327 1C4e.30c 1C6e.30c 4C4f.304 1C6f.304 1C4f.306 1C6f.306 1C4f.30b 1C6f.30b
3C52.301 1C72.301 1C52.327 1C72.327 1C52.30c 1C72.30c 1C53.301 1C73.301 1C53.302 1C73.302
1C53.327 1C73.327 1C53.30c 1C73.30c 1C54.327 1C74.327 1C54.30c 1C74.30c 3C55.303 1C75.303
1C55.304 1C75.304 1C55.306 1C75.306 1C55.30a 1C75.30a 1C55.30b 1C75.30b 1C55.328 1C75.328
1C57.302 1C77.302 1C59.302 1C79.302 1C59.308 1C5a.301 1C7a.301 1C5a.307 1C7a.307 1C5a.30c
1C7a.30c 22C4f.31b 1C6f.31b eC55.31b 1C75.31b 1dC41.30c 1C61.30c 1C49.30c 1C69.30c 1C4f.30c
1C6f.30c 1C55.30c 1C75.30c 1Cdc.304 1Cfc.304 1Cdc.301 1Cfc.301 1Cdc.30c 1Cfc.30c 1Cdc.300
1Cfc.300 2Cc4.304 1Ce4.304 1C226.304 1C227.304 1Cc6.304 1Ce6.304 3C47.30c 1C67.30c 1C4b.30c
1C6b.30c 1C4f.328 1C6f.328 1C1ea.304 1C1eb.304 1C1b7.30c 1C292.30c 1C6a.30c 4C47.301 1C67.301
3C4e.300 1C6e.300 1Cc5.301 1Ce5.301 1Cc6.301 1Ce6.301 1Cd8.301 1Cf8.301 1C41.30f 1C61.30f
1C41.311 1C61.311 1C45.30f 1C65.30f 1C45.311 1C65.311 1C49.30f 1C69.30f 1C49.311 1C69.311
1C4f.30f 1C6f.30f 1C4f.311 1C6f.311 1C52.30f 1C72.30f 1C52.311 1C72.311 1C55.30f 1C75.30f
1C55.311 1C75.311 1C53.326 1C73.326 1C54.326 1C74.326 3C48.30c 1C68.30c 7C41.307 1C61.307
1C45.327 1C65.327 1Cd6.304 1Cf6.304 1Cd5.304 1Cf5.304 1C4f.307 1C6f.307 1C22e.304 1C22f.304
1C59.304 1C79.304 10dD300 1D301 2D313 1D308.301 30D2b9 aD3b 7Ca8.301 1C391.301 1Db7 1C395.301
1C397.301 1C399.301 2C39f.301 2C3a5.301 1C3a9.301 1C3ca.301 1aC399.308 1C3a5.308 1C3b1.301
1C3b5.301 1C3b7.301 1C3b9.301 1C3cb.301 1aC3b9.308 1C3c5.308 1C3bf.301 1C3c5.301 1C3c9.301
5C3d2.301 1C3d2.308 2cC415.300 1C415.308 2C413.301 4C406.308 5C41a.301 1C418.300 1C423.306
bC418.306 20C438.306 17C435.300 1C435.308 2C433.301 4C456.308 5C43a.301 1C438.300 1C443.306
18C474.30f 1C475.30f 4aC416.306 1C436.306 eC410.306 1C430.306 1C410.308 1C430.308 3C415.306
1C435.306 3C4d8.308 1C4d9.308 1C416.308 1C436.308 1C417.308 1C437.308 3C418.304 1C438.304
1C418.308 1C438.308 1C41e.308 1C43e.308 3C4e8.308 1C4e9.308 1C42d.308 1C44d.308 1C423.304
1C443.304 1C423.308 1C443.308 1C423.30b 1C443.30b 1C427.308 1C447.308 3C42b.308 1C44b.308
129C627.653 1C627.654 1C648.654 1C627.655 1C64a.654 9aC6d5.654 2C6c1.654 11C6d2.654 256C928.93c
8C930.93c 3C933.93c 24D915.93c 1D916.93c 1D917.93c 1D91c.93c 1D921.93c 1D922.93c 1D92b.93c
1D92f.93c 6cC9c7.9be 1C9c7.9d7 10D9a1.9bc 1D9a2.9bc 2D9af.9bc 54Da32.a3c 3Da38.a3c 23Da16.a3c
1Da17.a3c 1Da1c.a3c 3Da2b.a3c eaCb47.b56 3Cb47.b3e 1Cb47.b57 10Db21.b3c 1Db22.b3c 37Cb92.bd7
36Cbc6.bbe 1Cbc7.bbe 1Cbc6.bd7 7cCc46.c56 78Ccbf.cd5 7Ccc6.cd5 1Ccc6.cd6 2Ccc6.cc2 1Ccca.cd5
7fCd46.d3e 1Cd47.d3e 1Cd46.d57 8eCdd9.dca 2Cdd9.dcf 1Cddc.dca 1Cdd9.ddf 165Df42.fb7 aDf4c.fb7
5Df51.fb7 5Df56.fb7 5Df5b.fb7 dDf40.fb5 aDf71.f72 2Df71.f74 1Dfb2.f80 2Dfb3.f80 9Df71.f80
12Df92.fb7 aDf9c.fb7 5Dfa1.fb7 5Dfa6.fb7 5Dfab.fb7 dDf90.fb5 6dC1025.102e ae0C1b05.1b35
2C1b07.1b35 2C1b09.1b35 2C1b0b.1b35 2C1b0d.1b35 4C1b11.1b35 29C1b3a.1b35 2C1b3c.1b35 3C1b3e.1b35
1C1b3f.1b35 2C1b42.1b35 2bdC41.325 1C61.325 1C42.307 1C62.307 1C42.323 1C62.323 1C42.331
1C62.331 1Cc7.301 1Ce7.301 1C44.307 1C64.307 1C44.323 1C64.323 1C44.331 1C64.331 1C44.327
1C64.327 1C44.32d 1C64.32d 1C112.300 1C113.300 1C112.301 1C113.301 1C45.32d 1C65.32d 1C45.330
1C65.330 1C228.306 1C229.306 1C46.307 1C66.307 1C47.304 1C67.304 1C48.307 1C68.307 1C48.323
1C68.323 1C48.308 1C68.308 1C48.327 1C68.327 1C48.32e 1C68.32e 1C49.330 1C69.330 1Ccf.301
1Cef.301 1C4b.301 1C6b.301 1C4b.323 1C6b.323 1C4b.331 1C6b.331 1C4c.323 1C6c.323 1C1e36.304
1C1e37.304 1C4c.331 1C6c.331 1C4c.32d 1C6c.32d 1C4d.301 1C6d.301 1C4d.307 1C6d.307 1C4d.323
1C6d.323 1C4e.307 1C6e.307 1C4e.323 1C6e.323 1C4e.331 1C6e.331 1C4e.32d 1C6e.32d 1Cd5.301
1Cf5.301 1Cd5.308 1Cf5.308 1C14c.300 1C14d.300 1C14c.301 1C14d.301 1C50.301 1C70.301 1C50.307
1C70.307 1C52.307 1C72.307 1C52.323 1C72.323 1C1e5a.304 1C1e5b.304 1C52.331 1C72.331 1C53.307
1C73.307 1C53.323 1C73.323 1C15a.307 1C15b.307 1C160.307 1C161.307 1C1e62.307 1C1e63.307
1C54.307 1C74.307 1C54.323 1C74.323 1C54.331 1C74.331 1C54.32d 1C74.32d 1C55.324 1C75.324
1C55.330 1C75.330 1C55.32d 1C75.32d 1C168.301 1C169.301 1C16a.308 1C16b.308 1C56.303 1C76.303
1C56.323 1C76.323 1C57.300 1C77.300 1C57.301 1C77.301 1C57.308 1C77.308 1C57.307 1C77.307
1C57.323 1C77.323 1C58.307 1C78.307 1C58.308 1C78.308 1C59.307 1C79.307 1C5a.302 1C7a.302
1C5a.323 1C7a.323 1C5a.331 1C7a.331 1C68.331 1C74.308 1C77.30a 1C79.30a 2C17f.307 5C41.323
1C61.323 1C41.309 1C61.309 1Cc2.301 1Ce2.301 1Cc2.300 1Ce2.300 1Cc2.309 1Ce2.309 1Cc2.303
1Ce2.303 1C1ea0.302 1C1ea1.302 1C102.301 1C103.301 1C102.300 1C103.300 1C102.309 1C103.309
1C102.303 1C103.303 1C1ea0.306 1C1ea1.306 1C45.323 1C65.323 1C45.309 1C65.309 1C45.303 1C65.303
1Cca.301 1Cea.301 1Cca.300 1Cea.300 1Cca.309 1Cea.309 1Cca.303 1Cea.303 1C1eb8.302 1C1eb9.302
1C49.309 1C69.309 1C49.323 1C69.323 1C4f.323 1C6f.323 1C4f.309 1C6f.309 1Cd4.301 1Cf4.301
1Cd4.300 1Cf4.300 1Cd4.309 1Cf4.309 1Cd4.303 1Cf4.303 1C1ecc.302 1C1ecd.302 1C1a0.301 1C1a1.301
1C1a0.300 1C1a1.300 1C1a0.309 1C1a1.309 1C1a0.303 1C1a1.303 1C1a0.323 1C1a1.323 1C55.323
1C75.323 1C55.309 1C75.309 1C1af.301 1C1b0.301 1C1af.300 1C1b0.300 1C1af.309 1C1b0.309 1C1af.303
1C1b0.303 1C1af.323 1C1b0.323 1C59.300 1C79.300 1C59.323 1C79.323 1C59.309 1C79.309 1C59.303
1C79.303 7C3b1.313 1C3b1.314 1C1f00.300 1C1f01.300 1C1f00.301 1C1f01.301 1C1f00.342 1C1f01.342
1C391.313 1C391.314 1C1f08.300 1C1f09.300 1C1f08.301 1C1f09.301 1C1f08.342 1C1f09.342 1C3b5.313
1C3b5.314 1C1f10.300 1C1f11.300 1C1f10.301 1C1f11.301 3C395.313 1C395.314 1C1f18.300 1C1f19.300
1C1f18.301 1C1f19.301 3C3b7.313 1C3b7.314 1C1f20.300 1C1f21.300 1C1f20.301 1C1f21.301 1C1f20.342
1C1f21.342 1C397.313 1C397.314 1C1f28.300 1C1f29.300 1C1f28.301 1C1f29.301 1C1f28.342 1C1f29.342
1C3b9.313 1C3b9.314 1C1f30.300 1C1f31.300 1C1f30.301 1C1f31.301 1C1f30.342 1C1f31.342 1C399.313
1C399.314 1C1f38.300 1C1f39.300 1C1f38.301 1C1f39.301 1C1f38.342 1C1f39.342 1C3bf.313 1C3bf.314
1C1f40.300 1C1f41.300 1C1f40.301 1C1f41.301 3C39f.313 1C39f.314 1C1f48.300 1C1f49.300 1C1f48.301
1C1f49.301 3C3c5.313 1C3c5.314 1C1f50.300 1C1f51.300 1C1f50.301 1C1f51.301 1C1f50.342 1C1f51.342
2C3a5.314 2C1f59.300 2C1f59.301 2C1f59.342 1C3c9.313 1C3c9.314 1C1f60.300 1C1f61.300 1C1f60.301
1C1f61.301 1C1f60.342 1C1f61.342 1C3a9.313 1C3a9.314 1C1f68.300 1C1f69.300 1C1f68.301 1C1f69.301
1C1f68.342 1C1f69.342 1C3b1.300 1D3ac 1C3b5.300 1D3ad 1C3b7.300 1D3ae 1C3b9.300 1D3af 1C3bf.300
1D3cc 1C3c5.300 1D3cd 1C3c9.300 1D3ce 3C1f00.345 1C1f01.345 1C1f02.345 1C1f03.345 1C1f04.345
1C1f05.345 1C1f06.345 1C1f07.345 1C1f08.345 1C1f09.345 1C1f0a.345 1C1f0b.345 1C1f0c.345
1C1f0d.345 1C1f0e.345 1C1f0f.345 1C1f20.345 1C1f21.345 1C1f22.345 1C1f23.345 1C1f24.345
1C1f25.345 1C1f26.345 1C1f27.345 1C1f28.345 1C1f29.345 1C1f2a.345 1C1f2b.345 1C1f2c.345
1C1f2d.345 1C1f2e.345 1C1f2f.345 1C1f60.345 1C1f61.345 1C1f62.345 1C1f63.345 1C1f64.345
1C1f65.345 1C1f66.345 1C1f67.345 1C1f68.345 1C1f69.345 1C1f6a.345 1C1f6b.345 1C1f6c.345
1C1f6d.345 1C1f6e.345 1C1f6f.345 1C3b1.306 1C3b1.304 1C1f70.345 1C3b1.345 1C3ac.345 2C3b1.342
1C1fb6.345 1C391.306 1C391.304 1C391.300 1D386 1C391.345 2D3b9 3Ca8.342 1C1f74.345 1C3b7.345
1C3ae.345 2C3b7.342 1C1fc6.345 1C395.300 1D388 1C397.300 1D389 1C397.345 1C1fbf.300 1C1fbf.301
1C1fbf.342 1C3b9.306 1C3b9.304 1C3ca.300 1D390 3C3b9.342 1C3ca.342 1C399.306 1C399.304 1C399.300
1D38a 2C1ffe.300 1C1ffe.301 1C1ffe.342 1C3c5.306 1C3c5.304 1C3cb.300 1D3b0 1C3c1.313 1C3c1.314
1C3c5.342 1C3cb.342 1C3a5.306 1C3a5.304 1C3a5.300 1D38e 1C3a1.314 1Ca8.300 1D385 1D60 3C1f7c.345
1C3c9.345 1C3ce.345 2C3c9.342 1C1ff6.345 1C39f.300 1D38c 1C3a9.300 1D38f 1C3a9.345 1Db4 3D2002
1D2003 125D3a9 4D4b 1Dc5 6fC2190.338 1C2192.338 13C2194.338 1fC21d0.338 1C21d4.338 1C21d2.338
35C2203.338 5C2208.338 3C220b.338 18C2223.338 2C2225.338 1bC223c.338 3C2243.338 3C2245.338
2C2248.338 17C3d.338 2C2261.338 bC224d.338 1C3c.338 1C3e.338 1C2264.338 1C2265.338 3C2272.338
1C2273.338 3C2276.338 1C2277.338 7C227a.338 1C227b.338 3C2282.338 1C2283.338 3C2286.338
1C2287.338 23C22a2.338 1C22a8.338 1C22a9.338 1C22ab.338 31C227c.338 1C227d.338 1C2291.338
1C2292.338 7C22b2.338 1C22b3.338 1C22b4.338 1C22b5.338 3cD3008 1D3009 7b2D2add.338 570C304b.3099
2C304d.3099 2C304f.3099 2C3051.3099 2C3053.3099 2C3055.3099 2C3057.3099 2C3059.3099 2C305b.3099
2C305d.3099 2C305f.3099 2C3061.3099 3C3064.3099 2C3066.3099 2C3068.3099 7C306f.3099 1C306f.309a
2C3072.3099 1C3072.309a 2C3075.3099 1C3075.309a 2C3078.3099 1C3078.309a 2C307b.3099 1C307b.309a
17C3046.3099 aC309d.3099 eC30ab.3099 2C30ad.3099 2C30af.3099 2C30b1.3099 2C30b3.3099 2C30b5.3099
2C30b7.3099 2C30b9.3099 2C30bb.3099 2C30bd.3099 2C30bf.3099 2C30c1.3099 3C30c4.3099 2C30c6.3099
2C30c8.3099 7C30cf.3099 1C30cf.309a 2C30d2.3099 1C30d2.309a 2C30d5.3099 1C30d5.309a 2C30d8.3099
1C30d8.309a 2C30db.3099 1C30db.309a 17C30a6.3099 3C30ef.3099 1C30f0.3099 1C30f1.3099 1C30f2.3099
4C30fd.3099 c802D8c48 1D66f4 1D8eca 1D8cc8 1D6ed1 1D4e32 1D53e5 1D9f9c 1D9f9c 1D5951 1D91d1
1D5587 1D5948 1D61f6 1D7669 1D7f85 1D863f 1D87ba 1D88f8 1D908f 1D6a02 1D6d1b 1D70d9 1D73de
1D843d 1D916a 1D99f1 1D4e82 1D5375 1D6b04 1D721b 1D862d 1D9e1e 1D5d50 1D6feb 1D85cd 1D8964
1D62c9 1D81d8 1D881f 1D5eca 1D6717 1D6d6a 1D72fc 1D90ce 1D4f86 1D51b7 1D52de 1D64c4 1D6ad3
1D7210 1D76e7 1D8001 1D8606 1D865c 1D8def 1D9732 1D9b6f 1D9dfa 1D788c 1D797f 1D7da0 1D83c9
1D9304 1D9e7f 1D8ad6 1D58df 1D5f04 1D7c60 1D807e 1D7262 1D78ca 1D8cc2 1D96f7 1D58d8 1D5c62
1D6a13 1D6dda 1D6f0f 1D7d2f 1D7e37 1D964b 1D52d2 1D808b 1D51dc 1D51cc 1D7a1c 1D7dbe 1D83f1
1D9675 1D8b80 1D62cf 1D6a02 1D8afe 1D4e39 1D5be7 1D6012 1D7387 1D7570 1D5317 1D78fb 1D4fbf
1D5fa9 1D4e0d 1D6ccc 1D6578 1D7d22 1D53c3 1D585e 1D7701 1D8449 1D8aaa 1D6bba 1D8fb0 1D6c88
1D62fe 1D82e5 1D63a0 1D7565 1D4eae 1D5169 1D51c9 1D6881 1D7ce7 1D826f 1D8ad2 1D91cf 1D52f5
1D5442 1D5973 1D5eec 1D65c5 1D6ffe 1D792a 1D95ad 1D9a6a 1D9e97 1D9ece 1D529b 1D66c6 1D6b77
1D8f62 1D5e74 1D6190 1D6200 1D649a 1D6f23 1D7149 1D7489 1D79ca 1D7df4 1D806f 1D8f26 1D84ee
1D9023 1D934a 1D5217 1D52a3 1D54bd 1D70c8 1D88c2 1D8aaa 1D5ec9 1D5ff5 1D637b 1D6bae 1D7c3e
1D7375 1D4ee4 1D56f9 1D5be7 1D5dba 1D601c 1D73b2 1D7469 1D7f9a 1D8046 1D9234 1D96f6 1D9748
1D9818 1D4f8b 1D79ae 1D91b4 1D96b8 1D60e1 1D4e86 1D50da 1D5bee 1D5c3f 1D6599 1D6a02 1D71ce
1D7642 1D84fc 1D907c 1D9f8d 1D6688 1D962e 1D5289 1D677b 1D67f3 1D6d41 1D6e9c 1D7409 1D7559
1D786b 1D7d10 1D985e 1D516d 1D622e 1D9678 1D502b 1D5d19 1D6dea 1D8f2a 1D5f8b 1D6144 1D6817
1D7387 1D9686 1D5229 1D540f 1D5c65 1D6613 1D674e 1D68a8 1D6ce5 1D7406 1D75e2 1D7f79 1D88cf
1D88e1 1D91cc 1D96e2 1D533f 1D6eba 1D541d 1D71d0 1D7498 1D85fa 1D96a3 1D9c57 1D9e9f 1D6797
1D6dcb 1D81e8 1D7acb 1D7b20 1D7c92 1D72c0 1D7099 1D8b58 1D4ec0 1D8336 1D523a 1D5207 1D5ea6
1D62d3 1D7cd6 1D5b85 1D6d1e 1D66b4 1D8f3b 1D884c 1D964d 1D898b 1D5ed3 1D5140 1D55c0 3D585a
2D6674 3D51de 1D732a 1D76ca 1D793c 1D795e 1D7965 1D798f 1D9756 1D7cbe 1D7fbd 2D8612 2D8af8
3D9038 1D90fd 4D98ef 1D98fc 1D9928 1D9db4 1D90de 1D96b7 1D4fae 1D50e7 1D514d 1D52c9 1D52e4
1D5351 1D559d 1D5606 1D5668 1D5840 1D58a8 1D5c64 1D5c6e 1D6094 1D6168 1D618e 1D61f2 1D654f
1D65e2 1D6691 1D6885 1D6d77 1D6e1a 1D6f22 1D716e 1D722b 1D7422 1D7891 1D793e 1D7949 1D7948
1D7950 1D7956 1D795d 1D798d 1D798e 1D7a40 1D7a81 1D7bc0 1D7df4 1D7e09 1D7e41 1D7f72 1D8005
1D81ed 1D8279 1D8279 1D8457 1D8910 1D8996 1D8b01 1D8b39 1D8cd3 1D8d08 1D8fb6 1D9038 1D96e3
1D97ff 1D983b 1D6075 1D242ee 1D8218 3D4e26 1D51b5 1D5168 1D4f80 1D5145 1D5180 1D52c7 1D52fa
1D559d 1D5555 1D5599 1D55e2 1D585a 1D58b3 1D5944 1D5954 1D5a62 1D5b28 1D5ed2 1D5ed9 1D5f69
1D5fad 1D60d8 1D614e 1D6108 1D618e 1D6160 1D61f2 1D6234 1D63c4 1D641c 1D6452 1D6556 1D6674
1D6717 1D671b 1D6756 1D6b79 1D6bba 1D6d41 1D6edb 1D6ecb 1D6f22 1D701e 1D716e 1D77a7 1D7235
1D72af 1D732a 1D7471 1D7506 1D753b 1D761d 1D761f 1D76ca 1D76db 1D76f4 1D774a 1D7740 1D78cc
1D7ab1 1D7bc0 1D7c7b 1D7d5b 1D7df4 1D7f3e 1D8005 1D8352 1D83ef 1D8779 1D8941 1D8986 1D8996
1D8abf 1D8af8 1D8acb 1D8b01 1D8afe 1D8aed 1D8b39 1D8b8a 1D8d08 1D8f38 1D9072 1D9199 1D9276
1D967c 1D96e3 1D9756 1D97db 1D97ff 1D980b 1D983b 1D9b12 1D9f9c 1D2284a 1D22844 1D233d5 1D3b9d
1D4018 1D4039 1D25249 1D25cd0 1D27ed3 1D9f43 1D9f8e 44D5d9.5b4 2D5f2.5b7 bD5e9.5c1 1D5e9.5c2
1Dfb49.5c1 1Dfb49.5c2 1D5d0.5b7 1D5d0.5b8 1D5d0.5bc 1D5d1.5bc 1D5d2.5bc 1D5d3.5bc 1D5d4.5bc
1D5d5.5bc 1D5d6.5bc 2D5d8.5bc 1D5d9.5bc 1D5da.5bc 1D5db.5bc 1D5dc.5bc 2D5de.5bc 2D5e0.5bc
1D5e1.5bc 2D5e3.5bc 1D5e4.5bc 2D5e6.5bc 1D5e7.5bc 1D5e8.5bc 1D5e9.5bc 1D5ea.5bc 1D5d5.5b9
1D5d1.5bf 1D5db.5bf 1D5e4.5bf a7bC105d2.307 1bC105da.307 ab6C11099.110ba 2C1109b.110ba
fC110a5.110ba 83C11131.11127 1C11132.11127 21cC11347.1133e 1C11347.11357 37C11382.113c9
2C11384.113bb 9C1138b.113c2 3C11390.113c9 34C113c2.113c2 2C113c2.113b8 1C113c2.113c9
f3C114b9.114ba 1C114b9.114b0 2C114b9.114bd fcC115b8.115af 1C115b9.115af 37dC11935.11930
47e9C1611e.1611e 1C1611e.16129 1C1611e.1611f 1C16129.1611f 1C1611e.16120 1C16121.1611f
1C16122.1611f 1C16121.16120 c40C16d67.16d67 1C16d63.16d67 1C16d69.16d67 63f4D1d157.1d165
1D1d158.1d165 1D1d15f.1d16e 1D1d15f.1d16f 1D1d15f.1d170 1D1d15f.1d171 1D1d15f.1d172
57D1d1b9.1d165 1D1d1ba.1d165 1D1d1bb.1d16e 1D1d1bc.1d16e 1D1d1bb.1d16f 1D1d1bc.1d16f 12640D4e3d
1D4e38 1D4e41 1D20122 1D4f60 1D4fae 1D4fbb 1D5002 1D507a 1D5099 1D50e7 1D50cf 1D349e 1D2063a
1D514d 1D5154 1D5164 1D5177 1D2051c 1D34b9 1D5167 1D518d 1D2054b 1D5197 1D51a4 1D4ecc 1D51ac
1D51b5 1D291df 1D51f5 1D5203 1D34df 1D523b 1D5246 1D5272 1D5277 1D3515 1D52c7 1D52c9 1D52e4
1D52fa 1D5305 1D5306 1D5317 1D5349 1D5351 1D535a 1D5373 1D537d 1D537f 1D537f 1D537f 1D20a2c
1D7070 1D53ca 1D53df 1D20b63 1D53eb 1D53f1 1D5406 1D549e 1D5438 1D5448 1D5468 1D54a2 1D54f6
1D5510 1D5553 1D5563 1D5584 1D5584 1D5599 1D55ab 1D55b3 1D55c2 1D5716 1D5606 1D5717 1D5651
1D5674 1D5207 1D58ee 1D57ce 1D57f4 1D580d 1D578b 1D5832 1D5831 1D58ac 1D214e4 1D58f2 1D58f7
1D5906 1D591a 1D5922 1D5962 1D216a8 1D216ea 1D59ec 1D5a1b 1D5a27 1D59d8 1D5a66 1D36ee 1D36fc
1D5b08 1D5b3e 1D5b3e 1D219c8 1D5bc3 1D5bd8 1D5be7 1D5bf3 1D21b18 1D5bff 1D5c06 1D5f53 1D5c22
1D3781 1D5c60 1D5c6e 1D5cc0 1D5c8d 1D21de4 1D5d43 1D21de6 1D5d6e 1D5d6b 1D5d7c 1D5de1 1D5de2
1D382f 1D5dfd 1D5e28 1D5e3d 1D5e69 1D3862 1D22183 1D387c 1D5eb0 1D5eb3 1D5eb6 1D5eca 1D2a392
1D5efe 1D22331 1D22331 1D8201 1D5f22 1D5f22 1D38c7 1D232b8 1D261da 1D5f62 1D5f6b 1D38e3 1D5f9a
1D5fcd 1D5fd7 1D5ff9 1D6081 1D393a 1D391c 1D6094 1D226d4 1D60c7 1D6148 1D614c 1D614e 1D614c
1D617a 1D618e 1D61b2 1D61a4 1D61af 1D61de 1D61f2 1D61f6 1D6210 1D621b 1D625d 1D62b1 1D62d4
1D6350 1D22b0c 1D633d 1D62fc 1D6368 1D6383 1D63e4 1D22bf1 1D6422 1D63c5 1D63a9 1D3a2e 1D6469
1D647e 1D649d 1D6477 1D3a6c 1D654f 1D656c 1D2300a 1D65e3 1D66f8 1D6649 1D3b19 1D6691 1D3b08
1D3ae4 1D5192 1D5195 1D6700 1D669c 1D80ad 1D43d9 1D6717 1D671b 1D6721 1D675e 1D6753 1D233c3
1D3b49 1D67fa 1D6785 1D6852 1D6885 1D2346d 1D688e 1D681f 1D6914 1D3b9d 1D6942 1D69a3 1D69ea
1D6aa8 1D236a3 1D6adb 1D3c18 1D6b21 1D238a7 1D6b54 1D3c4e 1D6b72 1D6b9f 1D6bba 1D6bbb 1D23a8d
1D21d0b 1D23afa 1D6c4e 1D23cbc 1D6cbf 1D6ccd 1D6c67 1D6d16 1D6d3e 1D6d77 1D6d41 1D6d69 1D6d78
1D6d85 1D23d1e 1D6d34 1D6e2f 1D6e6e 1D3d33 1D6ecb 1D6ec7 1D23ed1 1D6df9 1D6f6e 1D23f5e 1D23f8e
1D6fc6 1D7039 1D701e 1D701b 1D3d96 1D704a 1D707d 1D7077 1D70ad 1D20525 1D7145 1D24263 1D719c
1D243ab 1D7228 1D7235 1D7250 1D24608 1D7280 1D7295 1D24735 1D24814 1D737a 1D738b 1D3eac 1D73a5
1D3eb8 1D3eb8 1D7447 1D745c 1D7471 1D7485 1D74ca 1D3f1b 1D7524 1D24c36 1D753e 1D24c92 1D7570
1D2219f 1D7610 1D24fa1 1D24fb8 1D25044 1D3ffc 1D4008 1D76f4 1D250f3 1D250f2 1D25119 1D25133
1D771e 1D771f 1D771f 1D774a 1D4039 1D778b 1D4046 1D4096 1D2541d 1D784e 1D788c 1D78cc 1D40e3
1D25626 1D7956 1D2569a 1D256c5 1D798f 1D79eb 1D412f 1D7a40 1D7a4a 1D7a4f 1D2597c 1D25aa7 1D25aa7
1D7aee 1D4202 1D25bab 1D7bc6 1D7bc9 1D4227 1D25c80 1D7cd2 1D42a0 1D7ce8 1D7ce3 1D7d00 1D25f86
1D7d63 1D4301 1D7dc7 1D7e02 1D7e45 1D4334 1D26228 1D26247 1D4359 1D262d9 1D7f7a 1D2633e 1D7f95
1D7ffa 1D8005 1D264da 1D26523 1D8060 1D265a8 1D8070 1D2335f 1D43d5 1D80b2 1D8103 1D440b 1D813e
1D5ab5 1D267a7 1D267b5 1D23393 1D2339c 1D8201 1D8204 1D8f9e 1D446b 1D8291 1D828b 1D829d 1D52b3
1D82b1 1D82b3 1D82bd 1D82e6 1D26b3c 1D82e5 1D831d 1D8363 1D83ad 1D8323 1D83bd 1D83e7 1D8457
1D8353 1D83ca 1D83cc 1D83dc 1D26c36 1D26d6b 1D26cd5 1D452b 1D84f1 1D84f3 1D8516 1D273ca 1D8564
1D26f2c 1D455d 1D4561 1D26fb1 1D270d2 1D456b 1D8650 1D865c 1D8667 1D8669 1D86a9 1D8688 1D870e
1D86e2 1D8779 1D8728 1D876b 1D8786 1D45d7 1D87e1 1D8801 1D45f9 1D8860 1D8863 1D27667 1D88d7
1D88de 1D4635 1D88fa 1D34bb 1D278ae 1D27966 1D46be 1D46c7 1D8aa0 1D8aed 1D8b8a 1D8c55 1D27ca8
1D8cab 1D8cc1 1D8d1b 1D8d77 1D27f2f 1D20804 1D8dcb 1D8dbc 1D8df0 1D208de 1D8ed4 1D8f38 1D285d2
1D285ed 1D9094 1D90f1 1D9111 1D2872e 1D911b 1D9238 1D92d7 1D92d8 1D927c 1D93f9 1D9415 1D28bfa
1D958b 1D4995 1D95b7 1D28d77 1D49e6 1D96c3 1D5db2 1D9723 1D29145 1D2921a 1D4a6e 1D4a76 1D97e0
1D2940a 1D4ab2 1D29496 1D980b 1D980b 1D9829 1D295b6 1D98e2 1D4b33 1D9929 1D99a7 1D99c2 1D99fe
1D4bce 1D29b30 1D9b12 1D9c40 1D9cfd 1D4cce 1D4ced 1D9d67 1D2a0ce 1D4cf8 1D2a105 1D2a20e 1D2a291
1D9ebb 1D4d56 1D9ef9 1D9efe 1D9f05 1D9f0f 1D9f16 1D9f3b 1D2a600"

/-- Runs of one combining class each, as the distance from the start of the run before, `Z` and the class. -/
def combiningRuns : String := "
300Ze6 15Ze8 1Zdc 4Ze8 1Zd8 1Zdc 5Zca 2Zdc 4Zca 2Zdc bZ1 5Zdc 4Ze6 8Zf0 1Ze6 1Zdc 3Ze6 3Zdc 2Z0
1Ze6 3Zdc 4Ze6 1Ze8 1Zdc 2Ze6 1Ze9 1Zea 2Ze9 1Zea 2Ze9 1Ze6 dZ0 113Ze6 5Z0 109Zdc 1Ze6 4Zdc 1Ze6
3Zde 1Zdc 1Ze6 6Zdc 6Ze6 2Zdc 1Ze6 2Zde 1Ze4 1Ze6 1Za 1Zb 1Zc 1Zd 1Ze 1Zf 1Z10 1Z11 1Z12 1Z13
2Z14 1Z15 1Z16 1Z0 1Z17 1Z0 1Z18 1Z19 1Z0 1Ze6 1Zdc 1Z0 1Z12 1Z0 48Ze6 8Z1e 1Z1f 1Z20 1Z0 30Z1b
1Z1c 1Z1d 1Z1e 1Z1f 1Z20 1Z21 1Z22 1Ze6 2Zdc 2Ze6 5Zdc 1Ze6 2Zdc 1Z0 10Z23 1Z0 65Ze6 7Z0 2Ze6
4Zdc 1Ze6 1Z0 2Ze6 2Z0 1Zdc 1Ze6 2Zdc 1Z0 23Z24 1Z0 1eZe6 1Zdc 1Ze6 2Zdc 1Ze6 2Zdc 3Ze6 1Zdc
2Ze6 1Zdc 1Ze6 3Zdc 1Ze6 1Zdc 1Ze6 1Zdc 1Ze6 1Zdc 1Ze6 2Z0 a0Ze6 7Zdc 1Ze6 1Z0 9Zdc 1Z0 18Ze6
4Z0 1Ze6 9Z0 1Ze6 3Z0 1Ze6 5Z0 2bZdc 3Z0 3cZe6 1Zdc 3Ze6 4Z0 2aZe6 5Zdc 5Ze6 eZ0 1Zdc 1Ze6 2Zdc
1Ze6 2Zdc 1Ze6 3Zdc 3Z1b 1Z1c 1Z1d 1Ze6 3Zdc 1Ze6 2Zdc 2Ze6 5Z0 3cZ7 1Z0 10Z9 1Z0 3Ze6 1Zdc 1Ze6
2Z0 67Z7 1Z0 10Z9 1Z0 30Ze6 1Z0 3dZ7 1Z0 10Z9 1Z0 6eZ7 1Z0 10Z9 1Z0 6eZ7 1Z0 10Z9 1Z0 7fZ9 1Z0
6eZ7 1Z0 10Z9 1Z0 7Z54 1Z5b 1Z0 65Z7 1Z0 10Z9 1Z0 6dZ9 2Z0 10Z9 1Z0 7cZ9 1Z0 6dZ67 2Z9 1Z0 dZ6b
4Z0 6cZ76 2Z9 1Z0 dZ7a 4Z0 4cZdc 2Z0 1bZdc 1Z0 1Zdc 1Z0 1Zd8 1Z0 37Z81 1Z82 1Z0 1Z84 1Z0 5Z82
4Z0 2Z82 1Z0 1Ze6 2Z9 1Z0 1Ze6 2Z0 3eZdc 1Z0 70Z7 1Z0 1Z9 2Z0 52Zdc 1Z0 2cfZe6 3Z0 3b4Z9 2Z0
1eZ9 1Z0 9dZ9 1Z0 aZe6 1Z0 cbZe4 1Z0 8fZde 1Ze6 1Zdc 1Z0 dbZe6 1Zdc 1Z0 47Z9 1Z0 14Ze6 8Z0 2Zdc
1Z0 30Ze6 5Zdc 6Ze6 2Zdc 1Z0 1Zdc 2Ze6 2Zdc 2Ze6 5Zdc 1Ze6 4Z0 65Z7 1Z0 fZ9 1Z0 26Ze6 1Zdc 1Ze6
7Z0 36Z9 2Z0 3aZ7 1Z0 bZ9 2Z0 43Z7 1Z0 98Ze6 3Z0 1Z1 1Zdc 5Ze6 2Zdc 4Ze6 1Z0 1Z1 7Z0 4Zdc 1Z0
6Ze6 1Z0 3Ze6 2Z0 c6Ze6 2Zdc 1Ze6 7Zdc 1Ze6 2Zea 1Zd6 1Zdc 1Zca 1Ze6 25Ze8 1Ze4 2Zdc 1Zda 1Ze6
1Ze9 1Zdc 1Ze6 1Zdc 1Z0 2d0Ze6 2Z1 2Ze6 4Z1 3Ze6 2Z0 4Ze6 1Z0 3Z1 2Ze6 1Zdc 1Ze6 1Z1 2Zdc 4Ze6
1Z0 bfeZe6 3Z0 8dZ9 1Z0 60Ze6 20Z0 22aZda 1Ze4 1Ze8 1Zde 1Ze0 2Z0 69Z8 2Z0 75d4Ze6 1Z0 4Ze6 aZ0
20Ze6 2Z0 50Ze6 2Z0 114Z9 1Z0 25Z9 1Z0 97Z9 1Z0 1bZe6 12Z0 39Zdc 3Z0 25Z9 1Z0 5fZ7 1Z0 cZ9 1Z0
efZe6 1Z0 1Ze6 2Zdc 1Z0 2Ze6 2Z0 5Ze6 2Z0 1Ze6 1Z0 34Z9 1Z0 f6Z9 1Z0 4f30Z1a 1Z0 301Ze6 7Zdc
7Ze6 2Z0 3cdZdc 1Z0 e2Zdc 1Z0 95Ze6 5Z0 692Zdc 1Z0 1Ze6 1Z0 28Ze6 1Z1 1Zdc 1Z0 4Z9 1Z0 a5Ze6
1Zdc 1Z0 23dZe6 4Z0 183Ze6 2Z0 50Zdc 3Z0 46Zdc 2Ze6 3Zdc 1Ze6 1Zdc 4Z0 31Ze6 1Zdc 1Ze6 1Zdc 1Z0
c0Z9 1Z0 29Z9 1Z0 eZ9 1Z0 39Z9 1Z7 1Z0 45Ze6 3Z0 30Z9 2Z0 3eZ7 1Z0 4cZ9 1Z0 9Z7 1Z0 6aZ9 1Z7 1Z0
b2Z7 1Z9 1Z0 50Z7 2Z0 10Z9 1Z0 18Ze6 7Z0 3Ze6 5Z0 cdZ9 1Z0 3Z7 1Z0 17Ze6 1Z0 63Z9 1Z7 1Z0 fbZ9
1Z7 1Z0 7eZ9 1Z0 76Z9 1Z7 1Z0 73Z9 1Z0 10dZ9 1Z7 1Z0 102Z9 2Z0 4Z7 1Z0 9cZ9 1Z0 53Z9 1Z0 12Z9
1Z0 51Z9 1Z0 1a5Z9 1Z0 102Z7 1Z0 1Z9 2Z0 51Z9 1Z0 1a9Z9 2Z0 4badZ1 5Z0 3bZe6 7Z0 4b9Z6 2Z0
4cacZ1 1Z0 14c6Zd8 2Z1 3Z0 3Ze2 1Zd8 5Z0 8Zdc 8Z0 2Ze6 5Zdc 2Z0 1eZe6 4Z0 94Ze6 3Z0 dbbZe6 7Z0
1Ze6 11Z0 2Ze6 7Z0 1Ze6 2Z0 1Ze6 5Z0 64Ze6 1Z0 a0Ze6 7Z0 177Ze6 1Z0 3dZe6 4Z0 1fcZe8 2Zdc 1Ze6
1Z0 3e0Zdc 7Z0 6dZe6 6Z7 1Z0"

structure Decomposition where
  parts : List Nat
  composes : Bool
  deriving Repr, DecidableEq

def Decomposition.ofToken : List Char → Decomposition
  | 'C' :: rest => ⟨(Runs.codePoints rest).map Char.toNat, true⟩
  | _ :: rest => ⟨(Runs.codePoints rest).map Char.toNat, false⟩
  | [] => ⟨[], false⟩

def combiningOfToken : List Char → Nat
  | _ :: digits => Runs.hexNat digits
  | [] => 0

def decompositionTable : Runs Decomposition := Runs.tagged Decomposition.ofToken decompositionList

def combiningTable : Runs Nat := Runs.tagged combiningOfToken combiningRuns

def decomposition? (n : Nat) : Option Decomposition := decompositionTable.startingAt? n

def combiningClass (n : Nat) : Nat := if n < 0x300 then 0 else combiningTable.valueAt n 0

def compositions : List (Nat × Nat × Nat) :=
  decompositionTable.entries.filterMap fun (n, d) =>
    match d.parts, d.composes with
    | [a, b], true => some (a, b, n)
    | _, _ => none

def composite? (first second : Nat) : Option Nat :=
  (compositions.find? fun (a, b, _) => a == first && b == second).map (·.2.2)

end ProtocolGateway.Text
