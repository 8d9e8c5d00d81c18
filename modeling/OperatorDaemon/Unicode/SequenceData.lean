/-!
# Compatibility decompositions into several characters: the data

An entry is a character, what it decomposes into, and a zero. Hangul syllables are left out, since they
follow a rule.
-/

namespace OperatorDaemon.Unicode

/-- The entries, in the order of the characters. -/
def sequenceRows : List Nat :=
  [0x0000A80000200003080000000000AF0000200003040000000000B40000200003010000000000B8000020000327,
    0x0000000000BC0000310020440000340000000000BD0000310020440000320000000000BE000033002044000034,
    0x0000000000C00000410003000000000000C10000410003010000000000C20000410003020000000000C3000041,
    0x0003030000000000C40000410003080000000000C500004100030A0000000000C70000430003270000000000C8,
    0x0000450003000000000000C90000450003010000000000CA0000450003020000000000CB000045000308000000,
    0x0000CC0000490003000000000000CD0000490003010000000000CE0000490003020000000000CF000049000308,
    0x0000000000D100004E0003030000000000D200004F0003000000000000D300004F0003010000000000D400004F,
    0x0003020000000000D500004F0003030000000000D600004F0003080000000000D90000550003000000000000DA,
    0x0000550003010000000000DB0000550003020000000000DC0000550003080000000000DD000059000301000000,
    0x0000E00000610003000000000000E10000610003010000000000E20000610003020000000000E3000061000303,
    0x0000000000E40000610003080000000000E500006100030A0000000000E70000630003270000000000E8000065,
    0x0003000000000000E90000650003010000000000EA0000650003020000000000EB0000650003080000000000EC,
    0x0000690003000000000000ED0000690003010000000000EE0000690003020000000000EF000069000308000000,
    0x0000F100006E0003030000000000F200006F0003000000000000F300006F0003010000000000F400006F000302,
    0x0000000000F500006F0003030000000000F600006F0003080000000000F90000750003000000000000FA000075,
    0x0003010000000000FB0000750003020000000000FC0000750003080000000000FD0000790003010000000000FF,
    0x000079000308000000000100000041000304000000000101000061000304000000000102000041000306000000,
    0x000103000061000306000000000104000041000328000000000105000061000328000000000106000043000301,
    0x00000000010700006300030100000000010800004300030200000000010900006300030200000000010A000043,
    0x00030700000000010B00006300030700000000010C00004300030C00000000010D00006300030C00000000010E,
    0x00004400030C00000000010F00006400030C000000000112000045000304000000000113000065000304000000,
    0x000114000045000306000000000115000065000306000000000116000045000307000000000117000065000307,
    0x00000000011800004500032800000000011900006500032800000000011A00004500030C00000000011B000065,
    0x00030C00000000011C00004700030200000000011D00006700030200000000011E00004700030600000000011F,
    0x000067000306000000000120000047000307000000000121000067000307000000000122000047000327000000,
    0x000123000067000327000000000124000048000302000000000125000068000302000000000128000049000303,
    0x00000000012900006900030300000000012A00004900030400000000012B00006900030400000000012C000049,
    0x00030600000000012D00006900030600000000012E00004900032800000000012F000069000328000000000130,
    0x00004900030700000000013200004900004A00000000013300006900006A00000000013400004A000302000000,
    0x00013500006A00030200000000013600004B00032700000000013700006B00032700000000013900004C000301,
    0x00000000013A00006C00030100000000013B00004C00032700000000013C00006C00032700000000013D00004C,
    0x00030C00000000013E00006C00030C00000000013F00004C0000B700000000014000006C0000B7000000000143,
    0x00004E00030100000000014400006E00030100000000014500004E00032700000000014600006E000327000000,
    0x00014700004E00030C00000000014800006E00030C0000000001490002BC00006E00000000014C00004F000304,
    0x00000000014D00006F00030400000000014E00004F00030600000000014F00006F00030600000000015000004F,
    0x00030B00000000015100006F00030B000000000154000052000301000000000155000072000301000000000156,
    0x00005200032700000000015700007200032700000000015800005200030C00000000015900007200030C000000,
    0x00015A00005300030100000000015B00007300030100000000015C00005300030200000000015D000073000302,
    0x00000000015E00005300032700000000015F00007300032700000000016000005300030C000000000161000073,
    0x00030C00000000016200005400032700000000016300007400032700000000016400005400030C000000000165,
    0x00007400030C00000000016800005500030300000000016900007500030300000000016A000055000304000000,
    0x00016B00007500030400000000016C00005500030600000000016D00007500030600000000016E00005500030A,
    0x00000000016F00007500030A00000000017000005500030B00000000017100007500030B000000000172000055,
    0x000328000000000173000075000328000000000174000057000302000000000175000077000302000000000176,
    0x00005900030200000000017700007900030200000000017800005900030800000000017900005A000301000000,
    0x00017A00007A00030100000000017B00005A00030700000000017C00007A00030700000000017D00005A00030C,
    0x00000000017E00007A00030C0000000001A000004F00031B0000000001A100006F00031B0000000001AF000055,
    0x00031B0000000001B000007500031B0000000001C400004400005A00030C0000000001C500004400007A00030C,
    0x0000000001C600006400007A00030C0000000001C700004C00004A0000000001C800004C00006A0000000001C9,
    0x00006C00006A0000000001CA00004E00004A0000000001CB00004E00006A0000000001CC00006E00006A000000,
    0x0001CD00004100030C0000000001CE00006100030C0000000001CF00004900030C0000000001D000006900030C,
    0x0000000001D100004F00030C0000000001D200006F00030C0000000001D300005500030C0000000001D4000075,
    0x00030C0000000001D50000550003080003040000000001D60000750003080003040000000001D7000055000308,
    0x0003010000000001D80000750003080003010000000001D900005500030800030C0000000001DA000075000308,
    0x00030C0000000001DB0000550003080003000000000001DC0000750003080003000000000001DE000041000308,
    0x0003040000000001DF0000610003080003040000000001E00000410003070003040000000001E1000061000307,
    0x0003040000000001E20000C60003040000000001E30000E60003040000000001E600004700030C0000000001E7,
    0x00006700030C0000000001E800004B00030C0000000001E900006B00030C0000000001EA00004F000328000000,
    0x0001EB00006F0003280000000001EC00004F0003280003040000000001ED00006F0003280003040000000001EE,
    0x0001B700030C0000000001EF00029200030C0000000001F000006A00030C0000000001F100004400005A000000,
    0x0001F200004400007A0000000001F300006400007A0000000001F40000470003010000000001F5000067000301,
    0x0000000001F800004E0003000000000001F900006E0003000000000001FA00004100030A0003010000000001FB,
    0x00006100030A0003010000000001FC0000C60003010000000001FD0000E60003010000000001FE0000D8000301,
    0x0000000001FF0000F800030100000000020000004100030F00000000020100006100030F000000000202000041,
    0x00031100000000020300006100031100000000020400004500030F00000000020500006500030F000000000206,
    0x00004500031100000000020700006500031100000000020800004900030F00000000020900006900030F000000,
    0x00020A00004900031100000000020B00006900031100000000020C00004F00030F00000000020D00006F00030F,
    0x00000000020E00004F00031100000000020F00006F00031100000000021000005200030F000000000211000072,
    0x00030F00000000021200005200031100000000021300007200031100000000021400005500030F000000000215,
    0x00007500030F000000000216000055000311000000000217000075000311000000000218000053000326000000,
    0x00021900007300032600000000021A00005400032600000000021B00007400032600000000021E00004800030C,
    0x00000000021F00006800030C000000000226000041000307000000000227000061000307000000000228000045,
    0x00032700000000022900006500032700000000022A00004F00030800030400000000022B00006F000308000304,
    0x00000000022C00004F00030300030400000000022D00006F00030300030400000000022E00004F000307000000,
    0x00022F00006F00030700000000023000004F00030700030400000000023100006F000307000304000000000232,
    0x0000590003040000000002330000790003040000000002D80000200003060000000002D9000020000307000000,
    0x0002DA00002000030A0000000002DB0000200003280000000002DC0000200003030000000002DD00002000030B,
    0x00000000034400030800030100000000037A000020000345000000000384000020000301000000000385000020,
    0x000308000301000000000386000391000301000000000388000395000301000000000389000397000301000000,
    0x00038A00039900030100000000038C00039F00030100000000038E0003A500030100000000038F0003A9000301,
    0x0000000003900003B90003080003010000000003AA0003990003080000000003AB0003A50003080000000003AC,
    0x0003B10003010000000003AD0003B50003010000000003AE0003B70003010000000003AF0003B9000301000000,
    0x0003B00003C50003080003010000000003CA0003B90003080000000003CB0003C50003080000000003CC0003BF,
    0x0003010000000003CD0003C50003010000000003CE0003C90003010000000003D30003A50003010000000003D4,
    0x0003A5000308000000000400000415000300000000000401000415000308000000000403000413000301000000,
    0x00040700040600030800000000040C00041A00030100000000040D00041800030000000000040E000423000306,
    0x000000000419000418000306000000000439000438000306000000000450000435000300000000000451000435,
    0x00030800000000045300043300030100000000045700045600030800000000045C00043A00030100000000045D,
    0x00043800030000000000045E00044300030600000000047600047400030F00000000047700047500030F000000,
    0x0004C10004160003060000000004C20004360003060000000004D00004100003060000000004D1000430000306,
    0x0000000004D20004100003080000000004D30004300003080000000004D60004150003060000000004D7000435,
    0x0003060000000004DA0004D80003080000000004DB0004D90003080000000004DC0004160003080000000004DD,
    0x0004360003080000000004DE0004170003080000000004DF0004370003080000000004E2000418000304000000,
    0x0004E30004380003040000000004E40004180003080000000004E50004380003080000000004E600041E000308,
    0x0000000004E700043E0003080000000004EA0004E80003080000000004EB0004E90003080000000004EC00042D,
    0x0003080000000004ED00044D0003080000000004EE0004230003040000000004EF0004430003040000000004F0,
    0x0004230003080000000004F10004430003080000000004F200042300030B0000000004F300044300030B000000,
    0x0004F40004270003080000000004F50004470003080000000004F800042B0003080000000004F900044B000308,
    0x000000000587000565000582000000000622000627000653000000000623000627000654000000000624000648,
    0x00065400000000062500062700065500000000062600064A000654000000000675000627000674000000000676,
    0x0006480006740000000006770006C700067400000000067800064A0006740000000006C00006D5000654000000,
    0x0006C20006C10006540000000006D30006D200065400000000092900092800093C00000000093100093000093C,
    0x00000000093400093300093C00000000095800091500093C00000000095900091600093C00000000095A000917,
    0x00093C00000000095B00091C00093C00000000095C00092100093C00000000095D00092200093C00000000095E,
    0x00092B00093C00000000095F00092F00093C0000000009CB0009C70009BE0000000009CC0009C70009D7000000,
    0x0009DC0009A10009BC0000000009DD0009A20009BC0000000009DF0009AF0009BC000000000A33000A32000A3C,
    0x000000000A36000A38000A3C000000000A59000A16000A3C000000000A5A000A17000A3C000000000A5B000A1C,
    0x000A3C000000000A5E000A2B000A3C000000000B48000B47000B56000000000B4B000B47000B3E000000000B4C,
    0x000B47000B57000000000B5C000B21000B3C000000000B5D000B22000B3C000000000B94000B92000BD7000000,
    0x000BCA000BC6000BBE000000000BCB000BC7000BBE000000000BCC000BC6000BD7000000000C48000C46000C56,
    0x000000000CC0000CBF000CD5000000000CC7000CC6000CD5000000000CC8000CC6000CD6000000000CCA000CC6,
    0x000CC2000000000CCB000CC6000CC2000CD5000000000D4A000D46000D3E000000000D4B000D47000D3E000000,
    0x000D4C000D46000D57000000000DDA000DD9000DCA000000000DDC000DD9000DCF000000000DDD000DD9000DCF,
    0x000DCA000000000DDE000DD9000DDF000000000E33000E4D000E32000000000EB3000ECD000EB2000000000EDC,
    0x000EAB000E99000000000EDD000EAB000EA1000000000F43000F42000FB7000000000F4D000F4C000FB7000000,
    0x000F52000F51000FB7000000000F57000F56000FB7000000000F5C000F5B000FB7000000000F69000F40000FB5,
    0x000000000F73000F71000F72000000000F75000F71000F74000000000F76000FB2000F80000000000F77000FB2,
    0x000F71000F80000000000F78000FB3000F80000000000F79000FB3000F71000F80000000000F81000F71000F80,
    0x000000000F93000F92000FB7000000000F9D000F9C000FB7000000000FA2000FA1000FB7000000000FA7000FA6,
    0x000FB7000000000FAC000FAB000FB7000000000FB9000F90000FB500000000102600102500102E000000001B06,
    0x001B05001B35000000001B08001B07001B35000000001B0A001B09001B35000000001B0C001B0B001B35000000,
    0x001B0E001B0D001B35000000001B12001B11001B35000000001B3B001B3A001B35000000001B3D001B3C001B35,
    0x000000001B40001B3E001B35000000001B41001B3F001B35000000001B43001B42001B35000000001E00000041,
    0x000325000000001E01000061000325000000001E02000042000307000000001E03000062000307000000001E04,
    0x000042000323000000001E05000062000323000000001E06000042000331000000001E07000062000331000000,
    0x001E08000043000327000301000000001E09000063000327000301000000001E0A000044000307000000001E0B,
    0x000064000307000000001E0C000044000323000000001E0D000064000323000000001E0E000044000331000000,
    0x001E0F000064000331000000001E10000044000327000000001E11000064000327000000001E1200004400032D,
    0x000000001E1300006400032D000000001E14000045000304000300000000001E15000065000304000300000000,
    0x001E16000045000304000301000000001E17000065000304000301000000001E1800004500032D000000001E19,
    0x00006500032D000000001E1A000045000330000000001E1B000065000330000000001E1C000045000327000306,
    0x000000001E1D000065000327000306000000001E1E000046000307000000001E1F000066000307000000001E20,
    0x000047000304000000001E21000067000304000000001E22000048000307000000001E23000068000307000000,
    0x001E24000048000323000000001E25000068000323000000001E26000048000308000000001E27000068000308,
    0x000000001E28000048000327000000001E29000068000327000000001E2A00004800032E000000001E2B000068,
    0x00032E000000001E2C000049000330000000001E2D000069000330000000001E2E000049000308000301000000,
    0x001E2F000069000308000301000000001E3000004B000301000000001E3100006B000301000000001E3200004B,
    0x000323000000001E3300006B000323000000001E3400004B000331000000001E3500006B000331000000001E36,
    0x00004C000323000000001E3700006C000323000000001E3800004C000323000304000000001E3900006C000323,
    0x000304000000001E3A00004C000331000000001E3B00006C000331000000001E3C00004C00032D000000001E3D,
    0x00006C00032D000000001E3E00004D000301000000001E3F00006D000301000000001E4000004D000307000000,
    0x001E4100006D000307000000001E4200004D000323000000001E4300006D000323000000001E4400004E000307,
    0x000000001E4500006E000307000000001E4600004E000323000000001E4700006E000323000000001E4800004E,
    0x000331000000001E4900006E000331000000001E4A00004E00032D000000001E4B00006E00032D000000001E4C,
    0x00004F000303000301000000001E4D00006F000303000301000000001E4E00004F000303000308000000001E4F,
    0x00006F000303000308000000001E5000004F000304000300000000001E5100006F000304000300000000001E52,
    0x00004F000304000301000000001E5300006F000304000301000000001E54000050000301000000001E55000070,
    0x000301000000001E56000050000307000000001E57000070000307000000001E58000052000307000000001E59,
    0x000072000307000000001E5A000052000323000000001E5B000072000323000000001E5C000052000323000304,
    0x000000001E5D000072000323000304000000001E5E000052000331000000001E5F000072000331000000001E60,
    0x000053000307000000001E61000073000307000000001E62000053000323000000001E63000073000323000000,
    0x001E64000053000301000307000000001E65000073000301000307000000001E6600005300030C000307000000,
    0x001E6700007300030C000307000000001E68000053000323000307000000001E69000073000323000307000000,
    0x001E6A000054000307000000001E6B000074000307000000001E6C000054000323000000001E6D000074000323,
    0x000000001E6E000054000331000000001E6F000074000331000000001E7000005400032D000000001E71000074,
    0x00032D000000001E72000055000324000000001E73000075000324000000001E74000055000330000000001E75,
    0x000075000330000000001E7600005500032D000000001E7700007500032D000000001E78000055000303000301,
    0x000000001E79000075000303000301000000001E7A000055000304000308000000001E7B000075000304000308,
    0x000000001E7C000056000303000000001E7D000076000303000000001E7E000056000323000000001E7F000076,
    0x000323000000001E80000057000300000000001E81000077000300000000001E82000057000301000000001E83,
    0x000077000301000000001E84000057000308000000001E85000077000308000000001E86000057000307000000,
    0x001E87000077000307000000001E88000057000323000000001E89000077000323000000001E8A000058000307,
    0x000000001E8B000078000307000000001E8C000058000308000000001E8D000078000308000000001E8E000059,
    0x000307000000001E8F000079000307000000001E9000005A000302000000001E9100007A000302000000001E92,
    0x00005A000323000000001E9300007A000323000000001E9400005A000331000000001E9500007A000331000000,
    0x001E96000068000331000000001E97000074000308000000001E9800007700030A000000001E9900007900030A,
    0x000000001E9A0000610002BE000000001E9B000073000307000000001EA0000041000323000000001EA1000061,
    0x000323000000001EA2000041000309000000001EA3000061000309000000001EA4000041000302000301000000,
    0x001EA5000061000302000301000000001EA6000041000302000300000000001EA7000061000302000300000000,
    0x001EA8000041000302000309000000001EA9000061000302000309000000001EAA000041000302000303000000,
    0x001EAB000061000302000303000000001EAC000041000323000302000000001EAD000061000323000302000000,
    0x001EAE000041000306000301000000001EAF000061000306000301000000001EB0000041000306000300000000,
    0x001EB1000061000306000300000000001EB2000041000306000309000000001EB3000061000306000309000000,
    0x001EB4000041000306000303000000001EB5000061000306000303000000001EB6000041000323000306000000,
    0x001EB7000061000323000306000000001EB8000045000323000000001EB9000065000323000000001EBA000045,
    0x000309000000001EBB000065000309000000001EBC000045000303000000001EBD000065000303000000001EBE,
    0x000045000302000301000000001EBF000065000302000301000000001EC0000045000302000300000000001EC1,
    0x000065000302000300000000001EC2000045000302000309000000001EC3000065000302000309000000001EC4,
    0x000045000302000303000000001EC5000065000302000303000000001EC6000045000323000302000000001EC7,
    0x000065000323000302000000001EC8000049000309000000001EC9000069000309000000001ECA000049000323,
    0x000000001ECB000069000323000000001ECC00004F000323000000001ECD00006F000323000000001ECE00004F,
    0x000309000000001ECF00006F000309000000001ED000004F000302000301000000001ED100006F000302000301,
    0x000000001ED200004F000302000300000000001ED300006F000302000300000000001ED400004F000302000309,
    0x000000001ED500006F000302000309000000001ED600004F000302000303000000001ED700006F000302000303,
    0x000000001ED800004F000323000302000000001ED900006F000323000302000000001EDA00004F00031B000301,
    0x000000001EDB00006F00031B000301000000001EDC00004F00031B000300000000001EDD00006F00031B000300,
    0x000000001EDE00004F00031B000309000000001EDF00006F00031B000309000000001EE000004F00031B000303,
    0x000000001EE100006F00031B000303000000001EE200004F00031B000323000000001EE300006F00031B000323,
    0x000000001EE4000055000323000000001EE5000075000323000000001EE6000055000309000000001EE7000075,
    0x000309000000001EE800005500031B000301000000001EE900007500031B000301000000001EEA00005500031B,
    0x000300000000001EEB00007500031B000300000000001EEC00005500031B000309000000001EED00007500031B,
    0x000309000000001EEE00005500031B000303000000001EEF00007500031B000303000000001EF000005500031B,
    0x000323000000001EF100007500031B000323000000001EF2000059000300000000001EF3000079000300000000,
    0x001EF4000059000323000000001EF5000079000323000000001EF6000059000309000000001EF7000079000309,
    0x000000001EF8000059000303000000001EF9000079000303000000001F000003B1000313000000001F010003B1,
    0x000314000000001F020003B1000313000300000000001F030003B1000314000300000000001F040003B1000313,
    0x000301000000001F050003B1000314000301000000001F060003B1000313000342000000001F070003B1000314,
    0x000342000000001F08000391000313000000001F09000391000314000000001F0A000391000313000300000000,
    0x001F0B000391000314000300000000001F0C000391000313000301000000001F0D000391000314000301000000,
    0x001F0E000391000313000342000000001F0F000391000314000342000000001F100003B5000313000000001F11,
    0x0003B5000314000000001F120003B5000313000300000000001F130003B5000314000300000000001F140003B5,
    0x000313000301000000001F150003B5000314000301000000001F18000395000313000000001F19000395000314,
    0x000000001F1A000395000313000300000000001F1B000395000314000300000000001F1C000395000313000301,
    0x000000001F1D000395000314000301000000001F200003B7000313000000001F210003B7000314000000001F22,
    0x0003B7000313000300000000001F230003B7000314000300000000001F240003B7000313000301000000001F25,
    0x0003B7000314000301000000001F260003B7000313000342000000001F270003B7000314000342000000001F28,
    0x000397000313000000001F29000397000314000000001F2A000397000313000300000000001F2B000397000314,
    0x000300000000001F2C000397000313000301000000001F2D000397000314000301000000001F2E000397000313,
    0x000342000000001F2F000397000314000342000000001F300003B9000313000000001F310003B9000314000000,
    0x001F320003B9000313000300000000001F330003B9000314000300000000001F340003B9000313000301000000,
    0x001F350003B9000314000301000000001F360003B9000313000342000000001F370003B9000314000342000000,
    0x001F38000399000313000000001F39000399000314000000001F3A000399000313000300000000001F3B000399,
    0x000314000300000000001F3C000399000313000301000000001F3D000399000314000301000000001F3E000399,
    0x000313000342000000001F3F000399000314000342000000001F400003BF000313000000001F410003BF000314,
    0x000000001F420003BF000313000300000000001F430003BF000314000300000000001F440003BF000313000301,
    0x000000001F450003BF000314000301000000001F4800039F000313000000001F4900039F000314000000001F4A,
    0x00039F000313000300000000001F4B00039F000314000300000000001F4C00039F000313000301000000001F4D,
    0x00039F000314000301000000001F500003C5000313000000001F510003C5000314000000001F520003C5000313,
    0x000300000000001F530003C5000314000300000000001F540003C5000313000301000000001F550003C5000314,
    0x000301000000001F560003C5000313000342000000001F570003C5000314000342000000001F590003A5000314,
    0x000000001F5B0003A5000314000300000000001F5D0003A5000314000301000000001F5F0003A5000314000342,
    0x000000001F600003C9000313000000001F610003C9000314000000001F620003C9000313000300000000001F63,
    0x0003C9000314000300000000001F640003C9000313000301000000001F650003C9000314000301000000001F66,
    0x0003C9000313000342000000001F670003C9000314000342000000001F680003A9000313000000001F690003A9,
    0x000314000000001F6A0003A9000313000300000000001F6B0003A9000314000300000000001F6C0003A9000313,
    0x000301000000001F6D0003A9000314000301000000001F6E0003A9000313000342000000001F6F0003A9000314,
    0x000342000000001F700003B1000300000000001F710003B1000301000000001F720003B5000300000000001F73,
    0x0003B5000301000000001F740003B7000300000000001F750003B7000301000000001F760003B9000300000000,
    0x001F770003B9000301000000001F780003BF000300000000001F790003BF000301000000001F7A0003C5000300,
    0x000000001F7B0003C5000301000000001F7C0003C9000300000000001F7D0003C9000301000000001F800003B1,
    0x000313000345000000001F810003B1000314000345000000001F820003B1000313000300000345000000001F83,
    0x0003B1000314000300000345000000001F840003B1000313000301000345000000001F850003B1000314000301,
    0x000345000000001F860003B1000313000342000345000000001F870003B1000314000342000345000000001F88,
    0x000391000313000345000000001F89000391000314000345000000001F8A000391000313000300000345000000,
    0x001F8B000391000314000300000345000000001F8C000391000313000301000345000000001F8D000391000314,
    0x000301000345000000001F8E000391000313000342000345000000001F8F000391000314000342000345000000,
    0x001F900003B7000313000345000000001F910003B7000314000345000000001F920003B7000313000300000345,
    0x000000001F930003B7000314000300000345000000001F940003B7000313000301000345000000001F950003B7,
    0x000314000301000345000000001F960003B7000313000342000345000000001F970003B7000314000342000345,
    0x000000001F98000397000313000345000000001F99000397000314000345000000001F9A000397000313000300,
    0x000345000000001F9B000397000314000300000345000000001F9C000397000313000301000345000000001F9D,
    0x000397000314000301000345000000001F9E000397000313000342000345000000001F9F000397000314000342,
    0x000345000000001FA00003C9000313000345000000001FA10003C9000314000345000000001FA20003C9000313,
    0x000300000345000000001FA30003C9000314000300000345000000001FA40003C9000313000301000345000000,
    0x001FA50003C9000314000301000345000000001FA60003C9000313000342000345000000001FA70003C9000314,
    0x000342000345000000001FA80003A9000313000345000000001FA90003A9000314000345000000001FAA0003A9,
    0x000313000300000345000000001FAB0003A9000314000300000345000000001FAC0003A9000313000301000345,
    0x000000001FAD0003A9000314000301000345000000001FAE0003A9000313000342000345000000001FAF0003A9,
    0x000314000342000345000000001FB00003B1000306000000001FB10003B1000304000000001FB20003B1000300,
    0x000345000000001FB30003B1000345000000001FB40003B1000301000345000000001FB60003B1000342000000,
    0x001FB70003B1000342000345000000001FB8000391000306000000001FB9000391000304000000001FBA000391,
    0x000300000000001FBB000391000301000000001FBC000391000345000000001FBD000020000313000000001FBF,
    0x000020000313000000001FC0000020000342000000001FC1000020000308000342000000001FC20003B7000300,
    0x000345000000001FC30003B7000345000000001FC40003B7000301000345000000001FC60003B7000342000000,
    0x001FC70003B7000342000345000000001FC8000395000300000000001FC9000395000301000000001FCA000397,
    0x000300000000001FCB000397000301000000001FCC000397000345000000001FCD000020000313000300000000,
    0x001FCE000020000313000301000000001FCF000020000313000342000000001FD00003B9000306000000001FD1,
    0x0003B9000304000000001FD20003B9000308000300000000001FD30003B9000308000301000000001FD60003B9,
    0x000342000000001FD70003B9000308000342000000001FD8000399000306000000001FD9000399000304000000,
    0x001FDA000399000300000000001FDB000399000301000000001FDD000020000314000300000000001FDE000020,
    0x000314000301000000001FDF000020000314000342000000001FE00003C5000306000000001FE10003C5000304,
    0x000000001FE20003C5000308000300000000001FE30003C5000308000301000000001FE40003C1000313000000,
    0x001FE50003C1000314000000001FE60003C5000342000000001FE70003C5000308000342000000001FE80003A5,
    0x000306000000001FE90003A5000304000000001FEA0003A5000300000000001FEB0003A5000301000000001FEC,
    0x0003A1000314000000001FED000020000308000300000000001FEE000020000308000301000000001FF20003C9,
    0x000300000345000000001FF30003C9000345000000001FF40003C9000301000345000000001FF60003C9000342,
    0x000000001FF70003C9000342000345000000001FF800039F000300000000001FF900039F000301000000001FFA,
    0x0003A9000300000000001FFB0003A9000301000000001FFC0003A9000345000000001FFD000020000301000000,
    0x001FFE00002000031400000000201700002000033300000000202500002E00002E00000000202600002E00002E,
    0x00002E000000002033002032002032000000002034002032002032002032000000002036002035002035000000,
    0x00203700203500203500203500000000203C00002100002100000000203E00002000030500000000204700003F,
    0x00003F00000000204800003F00002100000000204900002100003F000000002057002032002032002032002032,
    0x0000000020A800005200007300000000210000006100002F00006300000000210100006100002F000073000000,
    0x0021030000B000004300000000210500006300002F00006F00000000210600006300002F000075000000002109,
    0x0000B000004600000000211600004E00006F00000000212000005300004D00000000212100005400004500004C,
    0x00000000212200005400004D00000000212B00004100030A00000000213B000046000041000058000000002150,
    0x000031002044000037000000002151000031002044000039000000002152000031002044000031000030000000,
    0x002153000031002044000033000000002154000032002044000033000000002155000031002044000035000000,
    0x002156000032002044000035000000002157000033002044000035000000002158000034002044000035000000,
    0x00215900003100204400003600000000215A00003500204400003600000000215B000031002044000038000000,
    0x00215C00003300204400003800000000215D00003500204400003800000000215E000037002044000038000000,
    0x00215F000031002044000000002161000049000049000000002162000049000049000049000000002163000049,
    0x000056000000002165000056000049000000002166000056000049000049000000002167000056000049000049,
    0x00004900000000216800004900005800000000216A00005800004900000000216B000058000049000049000000,
    0x002171000069000069000000002172000069000069000069000000002173000069000076000000002175000076,
    0x000069000000002176000076000069000069000000002177000076000069000069000069000000002178000069,
    0x00007800000000217A00007800006900000000217B000078000069000069000000002189000030002044000033,
    0x00000000219A00219000033800000000219B0021920003380000000021AE0021940003380000000021CD0021D0,
    0x0003380000000021CE0021D40003380000000021CF0021D2000338000000002204002203000338000000002209,
    0x00220800033800000000220C00220B000338000000002224002223000338000000002226002225000338000000,
    0x00222C00222B00222B00000000222D00222B00222B00222B00000000222F00222E00222E00000000223000222E,
    0x00222E00222E00000000224100223C000338000000002244002243000338000000002247002245000338000000,
    0x00224900224800033800000000226000003D00033800000000226200226100033800000000226D00224D000338,
    0x00000000226E00003C00033800000000226F00003E000338000000002270002264000338000000002271002265,
    0x000338000000002274002272000338000000002275002273000338000000002278002276000338000000002279,
    0x00227700033800000000228000227A00033800000000228100227B000338000000002284002282000338000000,
    0x0022850022830003380000000022880022860003380000000022890022870003380000000022AC0022A2000338,
    0x0000000022AD0022A80003380000000022AE0022A90003380000000022AF0022AB0003380000000022E000227C,
    0x0003380000000022E100227D0003380000000022E20022910003380000000022E30022920003380000000022EA,
    0x0022B20003380000000022EB0022B30003380000000022EC0022B40003380000000022ED0022B5000338000000,
    0x00246900003100003000000000246A00003100003100000000246B00003100003200000000246C000031000033,
    0x00000000246D00003100003400000000246E00003100003500000000246F000031000036000000002470000031,
    0x000037000000002471000031000038000000002472000031000039000000002473000032000030000000002474,
    0x000028000031000029000000002475000028000032000029000000002476000028000033000029000000002477,
    0x00002800003400002900000000247800002800003500002900000000247900002800003600002900000000247A,
    0x00002800003700002900000000247B00002800003800002900000000247C00002800003900002900000000247D,
    0x00002800003100003000002900000000247E00002800003100003100002900000000247F000028000031000032,
    0x000029000000002480000028000031000033000029000000002481000028000031000034000029000000002482,
    0x000028000031000035000029000000002483000028000031000036000029000000002484000028000031000037,
    0x000029000000002485000028000031000038000029000000002486000028000031000039000029000000002487,
    0x00002800003200003000002900000000248800003100002E00000000248900003200002E00000000248A000033,
    0x00002E00000000248B00003400002E00000000248C00003500002E00000000248D00003600002E00000000248E,
    0x00003700002E00000000248F00003800002E00000000249000003900002E00000000249100003100003000002E,
    0x00000000249200003100003100002E00000000249300003100003200002E00000000249400003100003300002E,
    0x00000000249500003100003400002E00000000249600003100003500002E00000000249700003100003600002E,
    0x00000000249800003100003700002E00000000249900003100003800002E00000000249A00003100003900002E,
    0x00000000249B00003200003000002E00000000249C00002800006100002900000000249D000028000062000029,
    0x00000000249E00002800006300002900000000249F0000280000640000290000000024A0000028000065000029,
    0x0000000024A10000280000660000290000000024A20000280000670000290000000024A3000028000068000029,
    0x0000000024A40000280000690000290000000024A500002800006A0000290000000024A600002800006B000029,
    0x0000000024A700002800006C0000290000000024A800002800006D0000290000000024A900002800006E000029,
    0x0000000024AA00002800006F0000290000000024AB0000280000700000290000000024AC000028000071000029,
    0x0000000024AD0000280000720000290000000024AE0000280000730000290000000024AF000028000074000029,
    0x0000000024B00000280000750000290000000024B10000280000760000290000000024B2000028000077000029,
    0x0000000024B30000280000780000290000000024B40000280000790000290000000024B500002800007A000029,
    0x000000002A0C00222B00222B00222B00222B000000002A7400003A00003A00003D000000002A7500003D00003D,
    0x000000002A7600003D00003D00003D000000002ADC002ADD00033800000000304C00304B00309900000000304E,
    0x00304D00309900000000305000304F003099000000003052003051003099000000003054003053003099000000,
    0x00305600305500309900000000305800305700309900000000305A00305900309900000000305C00305B003099,
    0x00000000305E00305D00309900000000306000305F003099000000003062003061003099000000003065003064,
    0x00309900000000306700306600309900000000306900306800309900000000307000306F003099000000003071,
    0x00306F00309A00000000307300307200309900000000307400307200309A000000003076003075003099000000,
    0x00307700307500309A00000000307900307800309900000000307A00307800309A00000000307C00307B003099,
    0x00000000307D00307B00309A00000000309400304600309900000000309B00002000309900000000309C000020,
    0x00309A00000000309E00309D00309900000000309F00308800308A0000000030AC0030AB0030990000000030AE,
    0x0030AD0030990000000030B00030AF0030990000000030B20030B10030990000000030B40030B3003099000000,
    0x0030B60030B50030990000000030B80030B70030990000000030BA0030B90030990000000030BC0030BB003099,
    0x0000000030BE0030BD0030990000000030C00030BF0030990000000030C20030C10030990000000030C50030C4,
    0x0030990000000030C70030C60030990000000030C90030C80030990000000030D00030CF0030990000000030D1,
    0x0030CF00309A0000000030D30030D20030990000000030D40030D200309A0000000030D60030D5003099000000,
    0x0030D70030D500309A0000000030D90030D80030990000000030DA0030D800309A0000000030DC0030DB003099,
    0x0000000030DD0030DB00309A0000000030F40030A60030990000000030F70030EF0030990000000030F80030F0,
    0x0030990000000030F90030F10030990000000030FA0030F20030990000000030FE0030FD0030990000000030FF,
    0x0030B30030C8000000003200000028001100000029000000003201000028001102000029000000003202000028,
    0x001103000029000000003203000028001105000029000000003204000028001106000029000000003205000028,
    0x00110700002900000000320600002800110900002900000000320700002800110B000029000000003208000028,
    0x00110C00002900000000320900002800110E00002900000000320A00002800110F00002900000000320B000028,
    0x00111000002900000000320C00002800111100002900000000320D00002800111200002900000000320E000028,
    0x00110000116100002900000000320F000028001102001161000029000000003210000028001103001161000029,
    0x000000003211000028001105001161000029000000003212000028001106001161000029000000003213000028,
    0x00110700116100002900000000321400002800110900116100002900000000321500002800110B001161000029,
    0x00000000321600002800110C00116100002900000000321700002800110E001161000029000000003218000028,
    0x00110F00116100002900000000321900002800111000116100002900000000321A000028001111001161000029,
    0x00000000321B00002800111200116100002900000000321C00002800110C00116E00002900000000321D000028,
    0x00110B00116900110C0011650011AB00002900000000321E00002800110B00116900111200116E000029000000,
    0x003220000028004E00000029000000003221000028004E8C000029000000003222000028004E09000029000000,
    0x0032230000280056DB000029000000003224000028004E9400002900000000322500002800516D000029000000,
    0x003226000028004E0300002900000000322700002800516B000029000000003228000028004E5D000029000000,
    0x00322900002800534100002900000000322A00002800670800002900000000322B00002800706B000029000000,
    0x00322C000028006C3400002900000000322D00002800672800002900000000322E0000280091D1000029000000,
    0x00322F00002800571F0000290000000032300000280065E500002900000000323100002800682A000029000000,
    0x00323200002800670900002900000000323300002800793E00002900000000323400002800540D000029000000,
    0x003235000028007279000029000000003236000028008CA100002900000000323700002800795D000029000000,
    0x0032380000280052B4000029000000003239000028004EE300002900000000323A00002800547C000029000000,
    0x00323B000028005B6600002900000000323C0000280076E300002900000000323D000028004F01000029000000,
    0x00323E000028008CC700002900000000323F00002800535400002900000000324000002800796D000029000000,
    0x003241000028004F110000290000000032420000280081EA0000290000000032430000280081F3000029000000,
    0x003250000050000054000045000000003251000032000031000000003252000032000032000000003253000032,
    0x000033000000003254000032000034000000003255000032000035000000003256000032000036000000003257,
    0x00003200003700000000325800003200003800000000325900003200003900000000325A000033000030000000,
    0x00325B00003300003100000000325C00003300003200000000325D00003300003300000000325E000033000034,
    0x00000000325F00003300003500000000326E00110000116100000000326F001102001161000000003270001103,
    0x001161000000003271001105001161000000003272001106001161000000003273001107001161000000003274,
    0x00110900116100000000327500110B00116100000000327600110C00116100000000327700110E001161000000,
    0x00327800110F00116100000000327900111000116100000000327A00111100116100000000327B001112001161,
    0x00000000327C00110E0011610011B700110000116900000000327D00110C00116E00110B00117400000000327E,
    0x00110B00116E0000000032B10000330000360000000032B20000330000370000000032B3000033000038000000,
    0x0032B40000330000390000000032B50000340000300000000032B60000340000310000000032B7000034000032,
    0x0000000032B80000340000330000000032B90000340000340000000032BA0000340000350000000032BB000034,
    0x0000360000000032BC0000340000370000000032BD0000340000380000000032BE0000340000390000000032BF,
    0x0000350000300000000032C00000310067080000000032C10000320067080000000032C2000033006708000000,
    0x0032C30000340067080000000032C40000350067080000000032C50000360067080000000032C6000037006708,
    0x0000000032C70000380067080000000032C80000390067080000000032C90000310000300067080000000032CA,
    0x0000310000310067080000000032CB0000310000320067080000000032CC0000480000670000000032CD000065,
    0x0000720000670000000032CE0000650000560000000032CF00004C0000540000440000000032FF004EE400548C,
    0x0000000033000030A20030CF00309A0030FC0030C80000000033010030A20030EB0030D50030A1000000003302,
    0x0030A20030F30030D800309A0030A20000000033030030A20030FC0030EB0000000033040030A40030CB0030F3,
    0x0030AF0030990000000033050030A40030F30030C10000000033060030A60030A90030F30000000033070030A8,
    0x0030B90030AF0030FC0030C80030990000000033080030A80030FC0030AB0030FC0000000033090030AA0030F3,
    0x0030B900000000330A0030AA0030FC0030E000000000330B0030AB0030A40030EA00000000330C0030AB0030E9,
    0x0030C30030C800000000330D0030AB0030ED0030EA0030FC00000000330E0030AB0030990030ED0030F3000000,
    0x00330F0030AB0030990030F30030DE0000000033100030AD0030990030AB0030990000000033110030AD003099,
    0x0030CB0030FC0000000033120030AD0030E50030EA0030FC0000000033130030AD0030990030EB0030BF003099,
    0x0030FC0000000033140030AD0030ED0000000033150030AD0030ED0030AF0030990030E90030E0000000003316,
    0x0030AD0030ED0030E10030FC0030C80030EB0000000033170030AD0030ED0030EF0030C30030C8000000003318,
    0x0030AF0030990030E90030E00000000033190030AF0030990030E90030E00030C80030F300000000331A0030AF,
    0x0030EB0030BB0030990030A40030ED00000000331B0030AF0030ED0030FC0030CD00000000331C0030B10030FC,
    0x0030B900000000331D0030B30030EB0030CA00000000331E0030B30030FC0030DB00309A00000000331F0030B5,
    0x0030A40030AF0030EB0000000033200030B50030F30030C10030FC0030E00000000033210030B70030EA0030F3,
    0x0030AF0030990000000033220030BB0030F30030C10000000033230030BB0030F30030C80000000033240030BF,
    0x0030990030FC0030B90000000033250030C60030990030B70000000033260030C80030990030EB000000003327,
    0x0030C80030F30000000033280030CA0030CE0000000033290030CE0030C30030C800000000332A0030CF0030A4,
    0x0030C400000000332B0030CF00309A0030FC0030BB0030F30030C800000000332C0030CF00309A0030FC0030C4,
    0x00000000332D0030CF0030990030FC0030EC0030EB00000000332E0030D200309A0030A20030B90030C80030EB,
    0x00000000332F0030D200309A0030AF0030EB0000000033300030D200309A0030B30000000033310030D2003099,
    0x0030EB0000000033320030D50030A10030E90030C30030C80030990000000033330030D50030A30030FC0030C8,
    0x0000000033340030D50030990030C30030B70030A70030EB0000000033350030D50030E90030F3000000003336,
    0x0030D80030AF0030BF0030FC0030EB0000000033370030D800309A0030BD0000000033380030D800309A0030CB,
    0x0030D20000000033390030D80030EB0030C400000000333A0030D800309A0030F30030B900000000333B0030D8,
    0x00309A0030FC0030B700309900000000333C0030D80030990030FC0030BF00000000333D0030DB00309A0030A4,
    0x0030F30030C800000000333E0030DB0030990030EB0030C800000000333F0030DB0030F30000000033400030DB,
    0x00309A0030F30030C80030990000000033410030DB0030FC0030EB0000000033420030DB0030FC0030F3000000,
    0x0033430030DE0030A40030AF0030ED0000000033440030DE0030A40030EB0000000033450030DE0030C30030CF,
    0x0000000033460030DE0030EB0030AF0000000033470030DE0030F30030B70030E70030F30000000033480030DF,
    0x0030AF0030ED0030F30000000033490030DF0030EA00000000334A0030DF0030EA0030CF0030990030FC0030EB,
    0x00000000334B0030E10030AB00309900000000334C0030E10030AB0030990030C80030F300000000334D0030E1,
    0x0030FC0030C80030EB00000000334E0030E40030FC0030C800309900000000334F0030E40030FC0030EB000000,
    0x0033500030E60030A20030F30000000033510030EA0030C30030C80030EB0000000033520030EA0030E9000000,
    0x0033530030EB0030D200309A0030FC0000000033540030EB0030FC0030D50030990030EB0000000033550030EC,
    0x0030E00000000033560030EC0030F30030C80030B10030990030F30000000033570030EF0030C30030C8000000,
    0x0033580000300070B90000000033590000310070B900000000335A0000320070B900000000335B0000330070B9,
    0x00000000335C0000340070B900000000335D0000350070B900000000335E0000360070B900000000335F000037,
    0x0070B90000000033600000380070B90000000033610000390070B90000000033620000310000300070B9000000,
    0x0033630000310000310070B90000000033640000310000320070B90000000033650000310000330070B9000000,
    0x0033660000310000340070B90000000033670000310000350070B90000000033680000310000360070B9000000,
    0x0033690000310000370070B900000000336A0000310000380070B900000000336B0000310000390070B9000000,
    0x00336C0000320000300070B900000000336D0000320000310070B900000000336E0000320000320070B9000000,
    0x00336F0000320000330070B90000000033700000320000340070B9000000003371000068000050000061000000,
    0x00337200006400006100000000337300004100005500000000337400006200006100007200000000337500006F,
    0x00005600000000337600007000006300000000337700006400006D00000000337800006400006D000032000000,
    0x00337900006400006D00003300000000337A00004900005500000000337B005E7300621000000000337C00662D,
    0x00548C00000000337D005927006B6300000000337E00660E006CBB00000000337F00682A005F0F004F1A00793E,
    0x00000000338000007000004100000000338100006E0000410000000033820003BC00004100000000338300006D,
    0x00004100000000338400006B00004100000000338500004B00004200000000338600004D000042000000003387,
    0x00004700004200000000338800006300006100006C00000000338900006B00006300006100006C00000000338A,
    0x00007000004600000000338B00006E00004600000000338C0003BC00004600000000338D0003BC000067000000,
    0x00338E00006D00006700000000338F00006B00006700000000339000004800007A00000000339100006B000048,
    0x00007A00000000339200004D00004800007A00000000339300004700004800007A000000003394000054000048,
    0x00007A0000000033950003BC00006C00000000339600006D00006C00000000339700006400006C000000003398,
    0x00006B00006C00000000339900006600006D00000000339A00006E00006D00000000339B0003BC00006D000000,
    0x00339C00006D00006D00000000339D00006300006D00000000339E00006B00006D00000000339F00006D00006D,
    0x0000320000000033A000006300006D0000320000000033A100006D0000320000000033A200006B00006D000032,
    0x0000000033A300006D00006D0000330000000033A400006300006D0000330000000033A500006D000033000000,
    0x0033A600006B00006D0000330000000033A700006D0022150000730000000033A800006D002215000073000032,
    0x0000000033A90000500000610000000033AA00006B0000500000610000000033AB00004D000050000061000000,
    0x0033AC0000470000500000610000000033AD0000720000610000640000000033AE000072000061000064002215,
    0x0000730000000033AF0000720000610000640022150000730000320000000033B00000700000730000000033B1,
    0x00006E0000730000000033B20003BC0000730000000033B300006D0000730000000033B4000070000056000000,
    0x0033B500006E0000560000000033B60003BC0000560000000033B700006D0000560000000033B800006B000056,
    0x0000000033B900004D0000560000000033BA0000700000570000000033BB00006E0000570000000033BC0003BC,
    0x0000570000000033BD00006D0000570000000033BE00006B0000570000000033BF00004D0000570000000033C0,
    0x00006B0003A90000000033C100004D0003A90000000033C200006100002E00006D00002E0000000033C3000042,
    0x0000710000000033C40000630000630000000033C50000630000640000000033C600004300221500006B000067,
    0x0000000033C700004300006F00002E0000000033C80000640000420000000033C90000470000790000000033CA,
    0x0000680000610000000033CB0000480000500000000033CC00006900006E0000000033CD00004B00004B000000,
    0x0033CE00004B00004D0000000033CF00006B0000740000000033D000006C00006D0000000033D100006C00006E,
    0x0000000033D200006C00006F0000670000000033D300006C0000780000000033D400006D0000620000000033D5,
    0x00006D00006900006C0000000033D600006D00006F00006C0000000033D70000500000480000000033D8000070,
    0x00002E00006D00002E0000000033D900005000005000004D0000000033DA0000500000520000000033DB000073,
    0x0000720000000033DC0000530000760000000033DD0000570000620000000033DE00005600221500006D000000,
    0x0033DF00004100221500006D0000000033E00000310065E50000000033E10000320065E50000000033E2000033,
    0x0065E50000000033E30000340065E50000000033E40000350065E50000000033E50000360065E50000000033E6,
    0x0000370065E50000000033E70000380065E50000000033E80000390065E50000000033E90000310000300065E5,
    0x0000000033EA0000310000310065E50000000033EB0000310000320065E50000000033EC0000310000330065E5,
    0x0000000033ED0000310000340065E50000000033EE0000310000350065E50000000033EF0000310000360065E5,
    0x0000000033F00000310000370065E50000000033F10000310000380065E50000000033F20000310000390065E5,
    0x0000000033F30000320000300065E50000000033F40000320000310065E50000000033F50000320000320065E5,
    0x0000000033F60000320000330065E50000000033F70000320000340065E50000000033F80000320000350065E5,
    0x0000000033F90000320000360065E50000000033FA0000320000370065E50000000033FB0000320000380065E5,
    0x0000000033FC0000320000390065E50000000033FD0000330000300065E50000000033FE0000330000310065E5,
    0x0000000033FF00006700006100006C00000000FB0000006600006600000000FB0100006600006900000000FB02,
    0x00006600006C00000000FB0300006600006600006900000000FB0400006600006600006C00000000FB05000073,
    0x00007400000000FB0600007300007400000000FB1300057400057600000000FB1400057400056500000000FB15,
    0x00057400056B00000000FB1600057E00057600000000FB1700057400056D00000000FB1D0005D90005B4000000,
    0x00FB1F0005F20005B700000000FB2A0005E90005C100000000FB2B0005E90005C200000000FB2C0005E90005BC,
    0x0005C100000000FB2D0005E90005BC0005C200000000FB2E0005D00005B700000000FB2F0005D00005B8000000,
    0x00FB300005D00005BC00000000FB310005D10005BC00000000FB320005D20005BC00000000FB330005D30005BC,
    0x00000000FB340005D40005BC00000000FB350005D50005BC00000000FB360005D60005BC00000000FB380005D8,
    0x0005BC00000000FB390005D90005BC00000000FB3A0005DA0005BC00000000FB3B0005DB0005BC00000000FB3C,
    0x0005DC0005BC00000000FB3E0005DE0005BC00000000FB400005E00005BC00000000FB410005E10005BC000000,
    0x00FB430005E30005BC00000000FB440005E40005BC00000000FB460005E60005BC00000000FB470005E70005BC,
    0x00000000FB480005E80005BC00000000FB490005E90005BC00000000FB4A0005EA0005BC00000000FB4B0005D5,
    0x0005B900000000FB4C0005D10005BF00000000FB4D0005DB0005BF00000000FB4E0005E40005BF00000000FB4F,
    0x0005D00005DC00000000FBA40006D500065400000000FBA50006D500065400000000FBB00006D2000654000000,
    0x00FBB10006D200065400000000FBDD0006C700067400000000FBEA00064A00065400062700000000FBEB00064A,
    0x00065400062700000000FBEC00064A0006540006D500000000FBED00064A0006540006D500000000FBEE00064A,
    0x00065400064800000000FBEF00064A00065400064800000000FBF000064A0006540006C700000000FBF100064A,
    0x0006540006C700000000FBF200064A0006540006C600000000FBF300064A0006540006C600000000FBF400064A,
    0x0006540006C800000000FBF500064A0006540006C800000000FBF600064A0006540006D000000000FBF700064A,
    0x0006540006D000000000FBF800064A0006540006D000000000FBF900064A00065400064900000000FBFA00064A,
    0x00065400064900000000FBFB00064A00065400064900000000FC0000064A00065400062C00000000FC0100064A,
    0x00065400062D00000000FC0200064A00065400064500000000FC0300064A00065400064900000000FC0400064A,
    0x00065400064A00000000FC0500062800062C00000000FC0600062800062D00000000FC0700062800062E000000,
    0x00FC0800062800064500000000FC0900062800064900000000FC0A00062800064A00000000FC0B00062A00062C,
    0x00000000FC0C00062A00062D00000000FC0D00062A00062E00000000FC0E00062A00064500000000FC0F00062A,
    0x00064900000000FC1000062A00064A00000000FC1100062B00062C00000000FC1200062B00064500000000FC13,
    0x00062B00064900000000FC1400062B00064A00000000FC1500062C00062D00000000FC1600062C000645000000,
    0x00FC1700062D00062C00000000FC1800062D00064500000000FC1900062E00062C00000000FC1A00062E00062D,
    0x00000000FC1B00062E00064500000000FC1C00063300062C00000000FC1D00063300062D00000000FC1E000633,
    0x00062E00000000FC1F00063300064500000000FC2000063500062D00000000FC2100063500064500000000FC22,
    0x00063600062C00000000FC2300063600062D00000000FC2400063600062E00000000FC25000636000645000000,
    0x00FC2600063700062D00000000FC2700063700064500000000FC2800063800064500000000FC2900063900062C,
    0x00000000FC2A00063900064500000000FC2B00063A00062C00000000FC2C00063A00064500000000FC2D000641,
    0x00062C00000000FC2E00064100062D00000000FC2F00064100062E00000000FC3000064100064500000000FC31,
    0x00064100064900000000FC3200064100064A00000000FC3300064200062D00000000FC34000642000645000000,
    0x00FC3500064200064900000000FC3600064200064A00000000FC3700064300062700000000FC3800064300062C,
    0x00000000FC3900064300062D00000000FC3A00064300062E00000000FC3B00064300064400000000FC3C000643,
    0x00064500000000FC3D00064300064900000000FC3E00064300064A00000000FC3F00064400062C00000000FC40,
    0x00064400062D00000000FC4100064400062E00000000FC4200064400064500000000FC43000644000649000000,
    0x00FC4400064400064A00000000FC4500064500062C00000000FC4600064500062D00000000FC4700064500062E,
    0x00000000FC4800064500064500000000FC4900064500064900000000FC4A00064500064A00000000FC4B000646,
    0x00062C00000000FC4C00064600062D00000000FC4D00064600062E00000000FC4E00064600064500000000FC4F,
    0x00064600064900000000FC5000064600064A00000000FC5100064700062C00000000FC52000647000645000000,
    0x00FC5300064700064900000000FC5400064700064A00000000FC5500064A00062C00000000FC5600064A00062D,
    0x00000000FC5700064A00062E00000000FC5800064A00064500000000FC5900064A00064900000000FC5A00064A,
    0x00064A00000000FC5B00063000067000000000FC5C00063100067000000000FC5D00064900067000000000FC5E,
    0x00002000064C00065100000000FC5F00002000064D00065100000000FC6000002000064E00065100000000FC61,
    0x00002000064F00065100000000FC6200002000065000065100000000FC6300002000065100067000000000FC64,
    0x00064A00065400063100000000FC6500064A00065400063200000000FC6600064A00065400064500000000FC67,
    0x00064A00065400064600000000FC6800064A00065400064900000000FC6900064A00065400064A00000000FC6A,
    0x00062800063100000000FC6B00062800063200000000FC6C00062800064500000000FC6D000628000646000000,
    0x00FC6E00062800064900000000FC6F00062800064A00000000FC7000062A00063100000000FC7100062A000632,
    0x00000000FC7200062A00064500000000FC7300062A00064600000000FC7400062A00064900000000FC7500062A,
    0x00064A00000000FC7600062B00063100000000FC7700062B00063200000000FC7800062B00064500000000FC79,
    0x00062B00064600000000FC7A00062B00064900000000FC7B00062B00064A00000000FC7C000641000649000000,
    0x00FC7D00064100064A00000000FC7E00064200064900000000FC7F00064200064A00000000FC80000643000627,
    0x00000000FC8100064300064400000000FC8200064300064500000000FC8300064300064900000000FC84000643,
    0x00064A00000000FC8500064400064500000000FC8600064400064900000000FC8700064400064A00000000FC88,
    0x00064500062700000000FC8900064500064500000000FC8A00064600063100000000FC8B000646000632000000,
    0x00FC8C00064600064500000000FC8D00064600064600000000FC8E00064600064900000000FC8F00064600064A,
    0x00000000FC9000064900067000000000FC9100064A00063100000000FC9200064A00063200000000FC9300064A,
    0x00064500000000FC9400064A00064600000000FC9500064A00064900000000FC9600064A00064A00000000FC97,
    0x00064A00065400062C00000000FC9800064A00065400062D00000000FC9900064A00065400062E00000000FC9A,
    0x00064A00065400064500000000FC9B00064A00065400064700000000FC9C00062800062C00000000FC9D000628,
    0x00062D00000000FC9E00062800062E00000000FC9F00062800064500000000FCA000062800064700000000FCA1,
    0x00062A00062C00000000FCA200062A00062D00000000FCA300062A00062E00000000FCA400062A000645000000,
    0x00FCA500062A00064700000000FCA600062B00064500000000FCA700062C00062D00000000FCA800062C000645,
    0x00000000FCA900062D00062C00000000FCAA00062D00064500000000FCAB00062E00062C00000000FCAC00062E,
    0x00064500000000FCAD00063300062C00000000FCAE00063300062D00000000FCAF00063300062E00000000FCB0,
    0x00063300064500000000FCB100063500062D00000000FCB200063500062E00000000FCB3000635000645000000,
    0x00FCB400063600062C00000000FCB500063600062D00000000FCB600063600062E00000000FCB7000636000645,
    0x00000000FCB800063700062D00000000FCB900063800064500000000FCBA00063900062C00000000FCBB000639,
    0x00064500000000FCBC00063A00062C00000000FCBD00063A00064500000000FCBE00064100062C00000000FCBF,
    0x00064100062D00000000FCC000064100062E00000000FCC100064100064500000000FCC200064200062D000000,
    0x00FCC300064200064500000000FCC400064300062C00000000FCC500064300062D00000000FCC600064300062E,
    0x00000000FCC700064300064400000000FCC800064300064500000000FCC900064400062C00000000FCCA000644,
    0x00062D00000000FCCB00064400062E00000000FCCC00064400064500000000FCCD00064400064700000000FCCE,
    0x00064500062C00000000FCCF00064500062D00000000FCD000064500062E00000000FCD1000645000645000000,
    0x00FCD200064600062C00000000FCD300064600062D00000000FCD400064600062E00000000FCD5000646000645,
    0x00000000FCD600064600064700000000FCD700064700062C00000000FCD800064700064500000000FCD9000647,
    0x00067000000000FCDA00064A00062C00000000FCDB00064A00062D00000000FCDC00064A00062E00000000FCDD,
    0x00064A00064500000000FCDE00064A00064700000000FCDF00064A00065400064500000000FCE000064A000654,
    0x00064700000000FCE100062800064500000000FCE200062800064700000000FCE300062A00064500000000FCE4,
    0x00062A00064700000000FCE500062B00064500000000FCE600062B00064700000000FCE7000633000645000000,
    0x00FCE800063300064700000000FCE900063400064500000000FCEA00063400064700000000FCEB000643000644,
    0x00000000FCEC00064300064500000000FCED00064400064500000000FCEE00064600064500000000FCEF000646,
    0x00064700000000FCF000064A00064500000000FCF100064A00064700000000FCF200064000064E000651000000,
    0x00FCF300064000064F00065100000000FCF400064000065000065100000000FCF500063700064900000000FCF6,
    0x00063700064A00000000FCF700063900064900000000FCF800063900064A00000000FCF900063A000649000000,
    0x00FCFA00063A00064A00000000FCFB00063300064900000000FCFC00063300064A00000000FCFD000634000649,
    0x00000000FCFE00063400064A00000000FCFF00062D00064900000000FD0000062D00064A00000000FD0100062C,
    0x00064900000000FD0200062C00064A00000000FD0300062E00064900000000FD0400062E00064A00000000FD05,
    0x00063500064900000000FD0600063500064A00000000FD0700063600064900000000FD0800063600064A000000,
    0x00FD0900063400062C00000000FD0A00063400062D00000000FD0B00063400062E00000000FD0C000634000645,
    0x00000000FD0D00063400063100000000FD0E00063300063100000000FD0F00063500063100000000FD10000636,
    0x00063100000000FD1100063700064900000000FD1200063700064A00000000FD1300063900064900000000FD14,
    0x00063900064A00000000FD1500063A00064900000000FD1600063A00064A00000000FD17000633000649000000,
    0x00FD1800063300064A00000000FD1900063400064900000000FD1A00063400064A00000000FD1B00062D000649,
    0x00000000FD1C00062D00064A00000000FD1D00062C00064900000000FD1E00062C00064A00000000FD1F00062E,
    0x00064900000000FD2000062E00064A00000000FD2100063500064900000000FD2200063500064A00000000FD23,
    0x00063600064900000000FD2400063600064A00000000FD2500063400062C00000000FD2600063400062D000000,
    0x00FD2700063400062E00000000FD2800063400064500000000FD2900063400063100000000FD2A000633000631,
    0x00000000FD2B00063500063100000000FD2C00063600063100000000FD2D00063400062C00000000FD2E000634,
    0x00062D00000000FD2F00063400062E00000000FD3000063400064500000000FD3100063300064700000000FD32,
    0x00063400064700000000FD3300063700064500000000FD3400063300062C00000000FD3500063300062D000000,
    0x00FD3600063300062E00000000FD3700063400062C00000000FD3800063400062D00000000FD3900063400062E,
    0x00000000FD3A00063700064500000000FD3B00063800064500000000FD3C00062700064B00000000FD3D000627,
    0x00064B00000000FD5000062A00062C00064500000000FD5100062A00062D00062C00000000FD5200062A00062D,
    0x00062C00000000FD5300062A00062D00064500000000FD5400062A00062E00064500000000FD5500062A000645,
    0x00062C00000000FD5600062A00064500062D00000000FD5700062A00064500062E00000000FD5800062C000645,
    0x00062D00000000FD5900062C00064500062D00000000FD5A00062D00064500064A00000000FD5B00062D000645,
    0x00064900000000FD5C00063300062D00062C00000000FD5D00063300062C00062D00000000FD5E00063300062C,
    0x00064900000000FD5F00063300064500062D00000000FD6000063300064500062D00000000FD61000633000645,
    0x00062C00000000FD6200063300064500064500000000FD6300063300064500064500000000FD6400063500062D,
    0x00062D00000000FD6500063500062D00062D00000000FD6600063500064500064500000000FD6700063400062D,
    0x00064500000000FD6800063400062D00064500000000FD6900063400062C00064A00000000FD6A000634000645,
    0x00062E00000000FD6B00063400064500062E00000000FD6C00063400064500064500000000FD6D000634000645,
    0x00064500000000FD6E00063600062D00064900000000FD6F00063600062E00064500000000FD7000063600062E,
    0x00064500000000FD7100063700064500062D00000000FD7200063700064500062D00000000FD73000637000645,
    0x00064500000000FD7400063700064500064A00000000FD7500063900062C00064500000000FD76000639000645,
    0x00064500000000FD7700063900064500064500000000FD7800063900064500064900000000FD7900063A000645,
    0x00064500000000FD7A00063A00064500064A00000000FD7B00063A00064500064900000000FD7C00064100062E,
    0x00064500000000FD7D00064100062E00064500000000FD7E00064200064500062D00000000FD7F000642000645,
    0x00064500000000FD8000064400062D00064500000000FD8100064400062D00064A00000000FD8200064400062D,
    0x00064900000000FD8300064400062C00062C00000000FD8400064400062C00062C00000000FD8500064400062E,
    0x00064500000000FD8600064400062E00064500000000FD8700064400064500062D00000000FD88000644000645,
    0x00062D00000000FD8900064500062D00062C00000000FD8A00064500062D00064500000000FD8B00064500062D,
    0x00064A00000000FD8C00064500062C00062D00000000FD8D00064500062C00064500000000FD8E00064500062E,
    0x00062C00000000FD8F00064500062E00064500000000FD9200064500062C00062E00000000FD93000647000645,
    0x00062C00000000FD9400064700064500064500000000FD9500064600062D00064500000000FD9600064600062D,
    0x00064900000000FD9700064600062C00064500000000FD9800064600062C00064500000000FD9900064600062C,
    0x00064900000000FD9A00064600064500064A00000000FD9B00064600064500064900000000FD9C00064A000645,
    0x00064500000000FD9D00064A00064500064500000000FD9E00062800062E00064A00000000FD9F00062A00062C,
    0x00064A00000000FDA000062A00062C00064900000000FDA100062A00062E00064A00000000FDA200062A00062E,
    0x00064900000000FDA300062A00064500064A00000000FDA400062A00064500064900000000FDA500062C000645,
    0x00064A00000000FDA600062C00062D00064900000000FDA700062C00064500064900000000FDA800063300062E,
    0x00064900000000FDA900063500062D00064A00000000FDAA00063400062D00064A00000000FDAB00063600062D,
    0x00064A00000000FDAC00064400062C00064A00000000FDAD00064400064500064A00000000FDAE00064A00062D,
    0x00064A00000000FDAF00064A00062C00064A00000000FDB000064A00064500064A00000000FDB1000645000645,
    0x00064A00000000FDB200064200064500064A00000000FDB300064600062D00064A00000000FDB4000642000645,
    0x00062D00000000FDB500064400062D00064500000000FDB600063900064500064A00000000FDB7000643000645,
    0x00064A00000000FDB800064600062C00062D00000000FDB900064500062E00064A00000000FDBA00064400062C,
    0x00064500000000FDBB00064300064500064500000000FDBC00064400062C00064500000000FDBD00064600062C,
    0x00062D00000000FDBE00062C00062D00064A00000000FDBF00062D00062C00064A00000000FDC000064500062C,
    0x00064A00000000FDC100064100064500064A00000000FDC200062800062D00064A00000000FDC3000643000645,
    0x00064500000000FDC400063900062C00064500000000FDC500063500064500064500000000FDC600063300062E,
    0x00064A00000000FDC700064600062C00064A00000000FDF00006350006440006D200000000FDF1000642000644,
    0x0006D200000000FDF200062700064400064400064700000000FDF300062700064300062800063100000000FDF4,
    0x00064500062D00064500062F00000000FDF500063500064400063900064500000000FDF6000631000633000648,
    0x00064400000000FDF700063900064400064A00064700000000FDF800064800063300064400064500000000FDF9,
    0x00063500064400064900000000FDFA000635000644000649000020000627000644000644000647000020000639,
    0x00064400064A00064700002000064800063300064400064500000000FDFB00062C00064400002000062C000644,
    0x00062700064400064700000000FDFC0006310006CC00062700064400000000FE1900002E00002E00002E000000,
    0x00FE3000002E00002E00000000FE4900002000030500000000FE4A00002000030500000000FE4B000020000305,
    0x00000000FE4C00002000030500000000FE7000002000064B00000000FE7100064000064B00000000FE72000020,
    0x00064C00000000FE7400002000064D00000000FE7600002000064E00000000FE7700064000064E00000000FE78,
    0x00002000064F00000000FE7900064000064F00000000FE7A00002000065000000000FE7B000640000650000000,
    0x00FE7C00002000065100000000FE7D00064000065100000000FE7E00002000065200000000FE7F000640000652,
    0x00000000FE8100062700065300000000FE8200062700065300000000FE8300062700065400000000FE84000627,
    0x00065400000000FE8500064800065400000000FE8600064800065400000000FE8700062700065500000000FE88,
    0x00062700065500000000FE8900064A00065400000000FE8A00064A00065400000000FE8B00064A000654000000,
    0x00FE8C00064A00065400000000FEF500064400062700065300000000FEF600064400062700065300000000FEF7,
    0x00064400062700065400000000FEF800064400062700065400000000FEF900064400062700065500000000FEFA,
    0x00064400062700065500000000FEFB00064400062700000000FEFC00064400062700000000FFE3000020000304,
    0x0000000105C90105D20003070000000105E40105DA00030700000001109A0110990110BA00000001109C01109B,
    0x0110BA0000000110AB0110A50110BA00000001112E01113101112700000001112F01113201112700000001134B,
    0x01134701133E00000001134C0113470113570000000113830113820113C90000000113850113840113BB000000,
    0x01138E01138B0113C20000000113910113900113C90000000113C50113C20113C20000000113C70113C20113B8,
    0x0000000113C80113C20113C90000000114BB0114B90114BA0000000114BC0114B90114B00000000114BE0114B9,
    0x0114BD0000000115BA0115B80115AF0000000115BB0115B90115AF000000011938011935011930000000016121,
    0x01611E01611E00000001612201611E01612900000001612301611E01611F00000001612401612901611F000000,
    0x01612501611E01612000000001612601611E01611E01611F00000001612701611E01612901611F000000016128,
    0x01611E01611E016120000000016D68016D67016D67000000016D69016D63016D67000000016D6A016D63016D67,
    0x016D6700000001D15E01D15701D16500000001D15F01D15801D16500000001D16001D15801D16501D16E000000,
    0x01D16101D15801D16501D16F00000001D16201D15801D16501D17000000001D16301D15801D16501D171000000,
    0x01D16401D15801D16501D17200000001D1BB01D1B901D16500000001D1BC01D1BA01D16500000001D1BD01D1B9,
    0x01D16501D16E00000001D1BE01D1BA01D16501D16E00000001D1BF01D1B901D16501D16F00000001D1C001D1BA,
    0x01D16501D16F00000001F10000003000002E00000001F10100003000002C00000001F10200003100002C000000,
    0x01F10300003200002C00000001F10400003300002C00000001F10500003400002C00000001F10600003500002C,
    0x00000001F10700003600002C00000001F10800003700002C00000001F10900003800002C00000001F10A000039,
    0x00002C00000001F11000002800004100002900000001F11100002800004200002900000001F112000028000043,
    0x00002900000001F11300002800004400002900000001F11400002800004500002900000001F115000028000046,
    0x00002900000001F11600002800004700002900000001F11700002800004800002900000001F118000028000049,
    0x00002900000001F11900002800004A00002900000001F11A00002800004B00002900000001F11B00002800004C,
    0x00002900000001F11C00002800004D00002900000001F11D00002800004E00002900000001F11E00002800004F,
    0x00002900000001F11F00002800005000002900000001F12000002800005100002900000001F121000028000052,
    0x00002900000001F12200002800005300002900000001F12300002800005400002900000001F124000028000055,
    0x00002900000001F12500002800005600002900000001F12600002800005700002900000001F127000028000058,
    0x00002900000001F12800002800005900002900000001F12900002800005A00002900000001F12A003014000053,
    0x00301500000001F12D00004300004400000001F12E00005700005A00000001F14A00004800005600000001F14B,
    0x00004D00005600000001F14C00005300004400000001F14D00005300005300000001F14E000050000050000056,
    0x00000001F14F00005700004300000001F16A00004D00004300000001F16B00004D00004400000001F16C00004D,
    0x00005200000001F19000004400004A00000001F20000307B00304B00000001F2010030B30030B300000001F213,
    0x0030C600309900000001F24000301400672C00301500000001F241003014004E0900301500000001F242003014,
    0x004E8C00301500000001F243003014005B8900301500000001F2440030140070B900301500000001F245003014,
    0x00625300301500000001F2460030140076D700301500000001F2470030140052DD00301500000001F248003014,
    0x006557003015000000FFFFFFFFFFFFFFFFFFFFFFFFFFFFFFFFFFFFFFFFFFFFFFFFFFFFFFFFFFFFFFFFFFFFFFFF]

end OperatorDaemon.Unicode
