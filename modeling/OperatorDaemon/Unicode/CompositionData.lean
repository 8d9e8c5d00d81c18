/-!
# Compositions: the data

An entry is two characters and the one that they compose into. Hangul syllables are left out, since
they follow a rule.
-/

namespace OperatorDaemon.Unicode

/-- The entries. -/
def compositionRows : List Nat :=
  [0x00003C00033800226E00003D00033800226000003E00033800226F0000410003000000C00000410003010000C1,
    0x0000410003020000C20000410003030000C3000041000304000100000041000306000102000041000307000226,
    0x0000410003080000C4000041000309001EA200004100030A0000C500004100030C0001CD00004100030F000200,
    0x000041000311000202000041000323001EA0000041000325001E00000041000328000104000042000307001E02,
    0x000042000323001E04000042000331001E0600004300030100010600004300030200010800004300030700010A,
    0x00004300030C00010C0000430003270000C7000044000307001E0A00004400030C00010E000044000323001E0C,
    0x000044000327001E1000004400032D001E12000044000331001E0E0000450003000000C80000450003010000C9,
    0x0000450003020000CA000045000303001EBC000045000304000112000045000306000114000045000307000116,
    0x0000450003080000CB000045000309001EBA00004500030C00011A00004500030F000204000045000311000206,
    0x000045000323001EB800004500032700022800004500032800011800004500032D001E18000045000330001E1A,
    0x000046000307001E1E0000470003010001F400004700030200011C000047000304001E2000004700030600011E,
    0x00004700030700012000004700030C0001E6000047000327000122000048000302000124000048000307001E22,
    0x000048000308001E2600004800030C00021E000048000323001E24000048000327001E2800004800032E001E2A,
    0x0000490003000000CC0000490003010000CD0000490003020000CE00004900030300012800004900030400012A,
    0x00004900030600012C0000490003070001300000490003080000CF000049000309001EC800004900030C0001CF,
    0x00004900030F00020800004900031100020A000049000323001ECA00004900032800012E000049000330001E2C,
    0x00004A00030200013400004B000301001E3000004B00030C0001E800004B000323001E3200004B000327000136,
    0x00004B000331001E3400004C00030100013900004C00030C00013D00004C000323001E3600004C00032700013B,
    0x00004C00032D001E3C00004C000331001E3A00004D000301001E3E00004D000307001E4000004D000323001E42,
    0x00004E0003000001F800004E00030100014300004E0003030000D100004E000307001E4400004E00030C000147,
    0x00004E000323001E4600004E00032700014500004E00032D001E4A00004E000331001E4800004F0003000000D2,
    0x00004F0003010000D300004F0003020000D400004F0003030000D500004F00030400014C00004F00030600014E,
    0x00004F00030700022E00004F0003080000D600004F000309001ECE00004F00030B00015000004F00030C0001D1,
    0x00004F00030F00020C00004F00031100020E00004F00031B0001A000004F000323001ECC00004F0003280001EA,
    0x000050000301001E54000050000307001E56000052000301000154000052000307001E5800005200030C000158,
    0x00005200030F000210000052000311000212000052000323001E5A000052000327000156000052000331001E5E,
    0x00005300030100015A00005300030200015C000053000307001E6000005300030C000160000053000323001E62,
    0x00005300032600021800005300032700015E000054000307001E6A00005400030C000164000054000323001E6C,
    0x00005400032600021A00005400032700016200005400032D001E70000054000331001E6E0000550003000000D9,
    0x0000550003010000DA0000550003020000DB00005500030300016800005500030400016A00005500030600016C,
    0x0000550003080000DC000055000309001EE600005500030A00016E00005500030B00017000005500030C0001D3,
    0x00005500030F00021400005500031100021600005500031B0001AF000055000323001EE4000055000324001E72,
    0x00005500032800017200005500032D001E76000055000330001E74000056000303001E7C000056000323001E7E,
    0x000057000300001E80000057000301001E82000057000302000174000057000307001E86000057000308001E84,
    0x000057000323001E88000058000307001E8A000058000308001E8C000059000300001EF20000590003010000DD,
    0x000059000302000176000059000303001EF8000059000304000232000059000307001E8E000059000308000178,
    0x000059000309001EF6000059000323001EF400005A00030100017900005A000302001E9000005A00030700017B,
    0x00005A00030C00017D00005A000323001E9200005A000331001E940000610003000000E00000610003010000E1,
    0x0000610003020000E20000610003030000E3000061000304000101000061000306000103000061000307000227,
    0x0000610003080000E4000061000309001EA300006100030A0000E500006100030C0001CE00006100030F000201,
    0x000061000311000203000061000323001EA1000061000325001E01000061000328000105000062000307001E03,
    0x000062000323001E05000062000331001E0700006300030100010700006300030200010900006300030700010B,
    0x00006300030C00010D0000630003270000E7000064000307001E0B00006400030C00010F000064000323001E0D,
    0x000064000327001E1100006400032D001E13000064000331001E0F0000650003000000E80000650003010000E9,
    0x0000650003020000EA000065000303001EBD000065000304000113000065000306000115000065000307000117,
    0x0000650003080000EB000065000309001EBB00006500030C00011B00006500030F000205000065000311000207,
    0x000065000323001EB900006500032700022900006500032800011900006500032D001E19000065000330001E1B,
    0x000066000307001E1F0000670003010001F500006700030200011D000067000304001E2100006700030600011F,
    0x00006700030700012100006700030C0001E7000067000327000123000068000302000125000068000307001E23,
    0x000068000308001E2700006800030C00021F000068000323001E25000068000327001E2900006800032E001E2B,
    0x000068000331001E960000690003000000EC0000690003010000ED0000690003020000EE000069000303000129,
    0x00006900030400012B00006900030600012D0000690003080000EF000069000309001EC900006900030C0001D0,
    0x00006900030F00020900006900031100020B000069000323001ECB00006900032800012F000069000330001E2D,
    0x00006A00030200013500006A00030C0001F000006B000301001E3100006B00030C0001E900006B000323001E33,
    0x00006B00032700013700006B000331001E3500006C00030100013A00006C00030C00013E00006C000323001E37,
    0x00006C00032700013C00006C00032D001E3D00006C000331001E3B00006D000301001E3F00006D000307001E41,
    0x00006D000323001E4300006E0003000001F900006E00030100014400006E0003030000F100006E000307001E45,
    0x00006E00030C00014800006E000323001E4700006E00032700014600006E00032D001E4B00006E000331001E49,
    0x00006F0003000000F200006F0003010000F300006F0003020000F400006F0003030000F500006F00030400014D,
    0x00006F00030600014F00006F00030700022F00006F0003080000F600006F000309001ECF00006F00030B000151,
    0x00006F00030C0001D200006F00030F00020D00006F00031100020F00006F00031B0001A100006F000323001ECD,
    0x00006F0003280001EB000070000301001E55000070000307001E57000072000301000155000072000307001E59,
    0x00007200030C00015900007200030F000211000072000311000213000072000323001E5B000072000327000157,
    0x000072000331001E5F00007300030100015B00007300030200015D000073000307001E6100007300030C000161,
    0x000073000323001E6300007300032600021900007300032700015F000074000307001E6B000074000308001E97,
    0x00007400030C000165000074000323001E6D00007400032600021B00007400032700016300007400032D001E71,
    0x000074000331001E6F0000750003000000F90000750003010000FA0000750003020000FB000075000303000169,
    0x00007500030400016B00007500030600016D0000750003080000FC000075000309001EE700007500030A00016F,
    0x00007500030B00017100007500030C0001D400007500030F00021500007500031100021700007500031B0001B0,
    0x000075000323001EE5000075000324001E7300007500032800017300007500032D001E77000075000330001E75,
    0x000076000303001E7D000076000323001E7F000077000300001E81000077000301001E83000077000302000175,
    0x000077000307001E87000077000308001E8500007700030A001E98000077000323001E89000078000307001E8B,
    0x000078000308001E8D000079000300001EF30000790003010000FD000079000302000177000079000303001EF9,
    0x000079000304000233000079000307001E8F0000790003080000FF000079000309001EF700007900030A001E99,
    0x000079000323001EF500007A00030100017A00007A000302001E9100007A00030700017C00007A00030C00017E,
    0x00007A000323001E9300007A000331001E950000A8000300001FED0000A80003010003850000A8000342001FC1,
    0x0000C2000300001EA60000C2000301001EA40000C2000303001EAA0000C2000309001EA80000C40003040001DE,
    0x0000C50003010001FA0000C60003010001FC0000C60003040001E20000C7000301001E080000CA000300001EC0,
    0x0000CA000301001EBE0000CA000303001EC40000CA000309001EC20000CF000301001E2E0000D4000300001ED2,
    0x0000D4000301001ED00000D4000303001ED60000D4000309001ED40000D5000301001E4C0000D500030400022C,
    0x0000D5000308001E4E0000D600030400022A0000D80003010001FE0000DC0003000001DB0000DC0003010001D7,
    0x0000DC0003040001D50000DC00030C0001D90000E2000300001EA70000E2000301001EA50000E2000303001EAB,
    0x0000E2000309001EA90000E40003040001DF0000E50003010001FB0000E60003010001FD0000E60003040001E3,
    0x0000E7000301001E090000EA000300001EC10000EA000301001EBF0000EA000303001EC50000EA000309001EC3,
    0x0000EF000301001E2F0000F4000300001ED30000F4000301001ED10000F4000303001ED70000F4000309001ED5,
    0x0000F5000301001E4D0000F500030400022D0000F5000308001E4F0000F600030400022B0000F80003010001FF,
    0x0000FC0003000001DC0000FC0003010001D80000FC0003040001D60000FC00030C0001DA000102000300001EB0,
    0x000102000301001EAE000102000303001EB4000102000309001EB2000103000300001EB1000103000301001EAF,
    0x000103000303001EB5000103000309001EB3000112000300001E14000112000301001E16000113000300001E15,
    0x000113000301001E1700014C000300001E5000014C000301001E5200014D000300001E5100014D000301001E53,
    0x00015A000307001E6400015B000307001E65000160000307001E66000161000307001E67000168000301001E78,
    0x000169000301001E7900016A000308001E7A00016B000308001E7B00017F000307001E9B0001A0000300001EDC,
    0x0001A0000301001EDA0001A0000303001EE00001A0000309001EDE0001A0000323001EE20001A1000300001EDD,
    0x0001A1000301001EDB0001A1000303001EE10001A1000309001EDF0001A1000323001EE30001AF000300001EEA,
    0x0001AF000301001EE80001AF000303001EEE0001AF000309001EEC0001AF000323001EF00001B0000300001EEB,
    0x0001B0000301001EE90001B0000303001EEF0001B0000309001EED0001B0000323001EF10001B700030C0001EE,
    0x0001EA0003040001EC0001EB0003040001ED0002260003040001E00002270003040001E1000228000306001E1C,
    0x000229000306001E1D00022E00030400023000022F00030400023100029200030C0001EF000391000300001FBA,
    0x000391000301000386000391000304001FB9000391000306001FB8000391000313001F08000391000314001F09,
    0x000391000345001FBC000395000300001FC8000395000301000388000395000313001F18000395000314001F19,
    0x000397000300001FCA000397000301000389000397000313001F28000397000314001F29000397000345001FCC,
    0x000399000300001FDA00039900030100038A000399000304001FD9000399000306001FD80003990003080003AA,
    0x000399000313001F38000399000314001F3900039F000300001FF800039F00030100038C00039F000313001F48,
    0x00039F000314001F490003A1000314001FEC0003A5000300001FEA0003A500030100038E0003A5000304001FE9,
    0x0003A5000306001FE80003A50003080003AB0003A5000314001F590003A9000300001FFA0003A900030100038F,
    0x0003A9000313001F680003A9000314001F690003A9000345001FFC0003AC000345001FB40003AE000345001FC4,
    0x0003B1000300001F700003B10003010003AC0003B1000304001FB10003B1000306001FB00003B1000313001F00,
    0x0003B1000314001F010003B1000342001FB60003B1000345001FB30003B5000300001F720003B50003010003AD,
    0x0003B5000313001F100003B5000314001F110003B7000300001F740003B70003010003AE0003B7000313001F20,
    0x0003B7000314001F210003B7000342001FC60003B7000345001FC30003B9000300001F760003B90003010003AF,
    0x0003B9000304001FD10003B9000306001FD00003B90003080003CA0003B9000313001F300003B9000314001F31,
    0x0003B9000342001FD60003BF000300001F780003BF0003010003CC0003BF000313001F400003BF000314001F41,
    0x0003C1000313001FE40003C1000314001FE50003C5000300001F7A0003C50003010003CD0003C5000304001FE1,
    0x0003C5000306001FE00003C50003080003CB0003C5000313001F500003C5000314001F510003C5000342001FE6,
    0x0003C9000300001F7C0003C90003010003CE0003C9000313001F600003C9000314001F610003C9000342001FF6,
    0x0003C9000345001FF30003CA000300001FD20003CA0003010003900003CA000342001FD70003CB000300001FE2,
    0x0003CB0003010003B00003CB000342001FE70003CE000345001FF40003D20003010003D30003D20003080003D4,
    0x0004060003080004070004100003060004D00004100003080004D2000413000301000403000415000300000400,
    0x0004150003060004D60004150003080004010004160003060004C10004160003080004DC0004170003080004DE,
    0x00041800030000040D0004180003040004E20004180003060004190004180003080004E400041A00030100040C,
    0x00041E0003080004E60004230003040004EE00042300030600040E0004230003080004F000042300030B0004F2,
    0x0004270003080004F400042B0003080004F800042D0003080004EC0004300003060004D10004300003080004D3,
    0x0004330003010004530004350003000004500004350003060004D70004350003080004510004360003060004C2,
    0x0004360003080004DD0004370003080004DF00043800030000045D0004380003040004E3000438000306000439,
    0x0004380003080004E500043A00030100045C00043E0003080004E70004430003040004EF00044300030600045E,
    0x0004430003080004F100044300030B0004F30004470003080004F500044B0003080004F900044D0003080004ED,
    0x00045600030800045700047400030F00047600047500030F0004770004D80003080004DA0004D90003080004DB,
    0x0004E80003080004EA0004E90003080004EB000627000653000622000627000654000623000627000655000625,
    0x00064800065400062400064A0006540006260006C10006540006C20006D20006540006D30006D50006540006C0,
    0x00092800093C00092900093000093C00093100093300093C0009340009C70009BE0009CB0009C70009D70009CC,
    0x000B47000B3E000B4B000B47000B56000B48000B47000B57000B4C000B92000BD7000B94000BC6000BBE000BCA,
    0x000BC6000BD7000BCC000BC7000BBE000BCB000C46000C56000C48000CBF000CD5000CC0000CC6000CC2000CCA,
    0x000CC6000CD5000CC7000CC6000CD6000CC8000CCA000CD5000CCB000D46000D3E000D4A000D46000D57000D4C,
    0x000D47000D3E000D4B000DD9000DCA000DDA000DD9000DCF000DDC000DD9000DDF000DDE000DDC000DCA000DDD,
    0x00102500102E001026001B05001B35001B06001B07001B35001B08001B09001B35001B0A001B0B001B35001B0C,
    0x001B0D001B35001B0E001B11001B35001B12001B3A001B35001B3B001B3C001B35001B3D001B3E001B35001B40,
    0x001B3F001B35001B41001B42001B35001B43001E36000304001E38001E37000304001E39001E5A000304001E5C,
    0x001E5B000304001E5D001E62000307001E68001E63000307001E69001EA0000302001EAC001EA0000306001EB6,
    0x001EA1000302001EAD001EA1000306001EB7001EB8000302001EC6001EB9000302001EC7001ECC000302001ED8,
    0x001ECD000302001ED9001F00000300001F02001F00000301001F04001F00000342001F06001F00000345001F80,
    0x001F01000300001F03001F01000301001F05001F01000342001F07001F01000345001F81001F02000345001F82,
    0x001F03000345001F83001F04000345001F84001F05000345001F85001F06000345001F86001F07000345001F87,
    0x001F08000300001F0A001F08000301001F0C001F08000342001F0E001F08000345001F88001F09000300001F0B,
    0x001F09000301001F0D001F09000342001F0F001F09000345001F89001F0A000345001F8A001F0B000345001F8B,
    0x001F0C000345001F8C001F0D000345001F8D001F0E000345001F8E001F0F000345001F8F001F10000300001F12,
    0x001F10000301001F14001F11000300001F13001F11000301001F15001F18000300001F1A001F18000301001F1C,
    0x001F19000300001F1B001F19000301001F1D001F20000300001F22001F20000301001F24001F20000342001F26,
    0x001F20000345001F90001F21000300001F23001F21000301001F25001F21000342001F27001F21000345001F91,
    0x001F22000345001F92001F23000345001F93001F24000345001F94001F25000345001F95001F26000345001F96,
    0x001F27000345001F97001F28000300001F2A001F28000301001F2C001F28000342001F2E001F28000345001F98,
    0x001F29000300001F2B001F29000301001F2D001F29000342001F2F001F29000345001F99001F2A000345001F9A,
    0x001F2B000345001F9B001F2C000345001F9C001F2D000345001F9D001F2E000345001F9E001F2F000345001F9F,
    0x001F30000300001F32001F30000301001F34001F30000342001F36001F31000300001F33001F31000301001F35,
    0x001F31000342001F37001F38000300001F3A001F38000301001F3C001F38000342001F3E001F39000300001F3B,
    0x001F39000301001F3D001F39000342001F3F001F40000300001F42001F40000301001F44001F41000300001F43,
    0x001F41000301001F45001F48000300001F4A001F48000301001F4C001F49000300001F4B001F49000301001F4D,
    0x001F50000300001F52001F50000301001F54001F50000342001F56001F51000300001F53001F51000301001F55,
    0x001F51000342001F57001F59000300001F5B001F59000301001F5D001F59000342001F5F001F60000300001F62,
    0x001F60000301001F64001F60000342001F66001F60000345001FA0001F61000300001F63001F61000301001F65,
    0x001F61000342001F67001F61000345001FA1001F62000345001FA2001F63000345001FA3001F64000345001FA4,
    0x001F65000345001FA5001F66000345001FA6001F67000345001FA7001F68000300001F6A001F68000301001F6C,
    0x001F68000342001F6E001F68000345001FA8001F69000300001F6B001F69000301001F6D001F69000342001F6F,
    0x001F69000345001FA9001F6A000345001FAA001F6B000345001FAB001F6C000345001FAC001F6D000345001FAD,
    0x001F6E000345001FAE001F6F000345001FAF001F70000345001FB2001F74000345001FC2001F7C000345001FF2,
    0x001FB6000345001FB7001FBF000300001FCD001FBF000301001FCE001FBF000342001FCF001FC6000345001FC7,
    0x001FF6000345001FF7001FFE000300001FDD001FFE000301001FDE001FFE000342001FDF00219000033800219A,
    0x00219200033800219B0021940003380021AE0021D00003380021CD0021D20003380021CF0021D40003380021CE,
    0x00220300033800220400220800033800220900220B00033800220C002223000338002224002225000338002226,
    0x00223C00033800224100224300033800224400224500033800224700224800033800224900224D00033800226D,
    0x002261000338002262002264000338002270002265000338002271002272000338002274002273000338002275,
    0x00227600033800227800227700033800227900227A00033800228000227B00033800228100227C0003380022E0,
    0x00227D0003380022E1002282000338002284002283000338002285002286000338002288002287000338002289,
    0x0022910003380022E20022920003380022E30022A20003380022AC0022A80003380022AD0022A90003380022AE,
    0x0022AB0003380022AF0022B20003380022EA0022B30003380022EB0022B40003380022EC0022B50003380022ED,
    0x00304600309900309400304B00309900304C00304D00309900304E00304F003099003050003051003099003052,
    0x00305300309900305400305500309900305600305700309900305800305900309900305A00305B00309900305C,
    0x00305D00309900305E00305F003099003060003061003099003062003064003099003065003066003099003067,
    0x00306800309900306900306F00309900307000306F00309A00307100307200309900307300307200309A003074,
    0x00307500309900307600307500309A00307700307800309900307900307800309A00307A00307B00309900307C,
    0x00307B00309A00307D00309D00309900309E0030A60030990030F40030AB0030990030AC0030AD0030990030AE,
    0x0030AF0030990030B00030B10030990030B20030B30030990030B40030B50030990030B60030B70030990030B8,
    0x0030B90030990030BA0030BB0030990030BC0030BD0030990030BE0030BF0030990030C00030C10030990030C2,
    0x0030C40030990030C50030C60030990030C70030C80030990030C90030CF0030990030D00030CF00309A0030D1,
    0x0030D20030990030D30030D200309A0030D40030D50030990030D60030D500309A0030D70030D80030990030D9,
    0x0030D800309A0030DA0030DB0030990030DC0030DB00309A0030DD0030EF0030990030F70030F00030990030F8,
    0x0030F10030990030F90030F20030990030FA0030FD0030990030FE0105D20003070105C90105DA0003070105E4,
    0x0110990110BA01109A01109B0110BA01109C0110A50110BA0110AB01113101112701112E01113201112701112F,
    0x01134701133E01134B01134701135701134C0113820113C90113830113840113BB01138501138B0113C201138E,
    0x0113900113C90113910113C20113B80113C70113C20113C20113C50113C20113C90113C80114B90114B00114BC,
    0x0114B90114BA0114BB0114B90114BD0114BE0115B80115AF0115BA0115B90115AF0115BB011935011930011938,
    0x01611E01611E01612101611E01611F01612301611E01612001612501611E01612901612201612101611F016126,
    0x01612101612001612801612201611F01612701612901611F016124016D63016D67016D69016D67016D67016D68,
    0x016D69016D67016D6AFFFFFFFFFFFFFFFFFFFFFFFFFFFFFFFFFFFFFFFFFFFFFFFFFFFFFFFFFFFFFFFFFFFFFFFF]

end OperatorDaemon.Unicode
