/-!
# Compatibility decompositions into one character: the data

A run is its first character, its last, and the character that stands for the first; the others follow
in step.
-/

namespace OperatorDaemon.Unicode

/-- The runs of characters that decompose into one character. -/
def singleRows : List Nat :=
  [0x0000A00000A00000200000AA0000AA0000610000B20000B30000320000B50000B50003BC0000B90000B9000031,
    0x0000BA0000BA00006F00017F00017F0000730002B00002B00000680002B10002B10002660002B20002B200006A,
    0x0002B30002B30000720002B40002B40002790002B50002B500027B0002B60002B60002810002B70002B7000077,
    0x0002B80002B80000790002E00002E00002630002E10002E100006C0002E20002E20000730002E30002E3000078,
    0x0002E40002E40002950003400003410003000003430003430003130003740003740002B900037E00037E00003B,
    0x0003870003870000B70003D00003D00003B20003D10003D10003B80003D20003D20003A50003D50003D50003C6,
    0x0003D60003D60003C00003F00003F00003BA0003F10003F20003C10003F40003F40003980003F50003F50003B5,
    0x0003F90003F90003A3000F0C000F0C000F0B0010FC0010FC0010DC001D2C001D2C000041001D2D001D2D0000C6,
    0x001D2E001D2E000042001D30001D31000044001D32001D3200018E001D33001D3A000047001D3C001D3C00004F,
    0x001D3D001D3D000222001D3E001D3E000050001D3F001D3F000052001D40001D41000054001D42001D42000057,
    0x001D43001D43000061001D44001D45000250001D46001D46001D02001D47001D47000062001D48001D49000064,
    0x001D4A001D4A000259001D4B001D4C00025B001D4D001D4D000067001D4F001D4F00006B001D50001D5000006D,
    0x001D51001D5100014B001D52001D5200006F001D53001D53000254001D54001D55001D16001D56001D56000070,
    0x001D57001D58000074001D59001D59001D1D001D5A001D5A00026F001D5B001D5B000076001D5C001D5C001D25,
    0x001D5D001D5F0003B2001D60001D610003C6001D62001D62000069001D63001D63000072001D64001D65000075,
    0x001D66001D670003B2001D68001D680003C1001D69001D6A0003C6001D78001D7800043D001D9B001D9B000252,
    0x001D9C001D9C000063001D9D001D9D000255001D9E001D9E0000F0001D9F001D9F00025C001DA0001DA0000066,
    0x001DA1001DA100025F001DA2001DA2000261001DA3001DA3000265001DA4001DA6000268001DA7001DA7001D7B,
    0x001DA8001DA800029D001DA9001DA900026D001DAA001DAA001D85001DAB001DAB00029F001DAC001DAC000271,
    0x001DAD001DAD000270001DAE001DB1000272001DB2001DB2000278001DB3001DB4000282001DB5001DB50001AB,
    0x001DB6001DB7000289001DB8001DB8001D1C001DB9001DBA00028B001DBB001DBB00007A001DBC001DBE000290,
    0x001DBF001DBF0003B8001FBE001FBE0003B9001FEF001FEF000060002000002000000020002001002001000020,
    0x002002002002000020002003002003000020002004002004000020002005002005000020002006002006000020,
    0x00200700200700002000200800200800002000200900200900002000200A00200A000020002011002011002010,
    0x00202400202400002E00202F00202F00002000205F00205F000020002070002070000030002071002071000069,
    0x00207400207900003400207A00207A00002B00207B00207B00221200207C00207C00003D00207D00207E000028,
    0x00207F00207F00006E00208000208900003000208A00208A00002B00208B00208B00221200208C00208C00003D,
    0x00208D00208E00002800209000209000006100209100209100006500209200209200006F002093002093000078,
    0x00209400209400025900209500209500006800209600209900006B00209A00209A00007000209B00209C000073,
    0x00210200210200004300210700210700019000210A00210A00006700210B00210B00004800210C00210C000048,
    0x00210D00210D00004800210E00210E00006800210F00210F000127002110002110000049002111002111000049,
    0x00211200211200004C00211300211300006C00211500211500004E00211900211B00005000211C00211C000052,
    0x00211D00211D00005200212400212400005A0021260021260003A900212800212800005A00212A00212A00004B,
    0x00212C00212D00004200212F00212F00006500213000213100004500213300213300004D00213400213400006F,
    0x0021350021380005D000213900213900006900213C00213C0003C000213D00213D0003B300213E00213E000393,
    0x00213F00213F0003A0002140002140002211002145002145000044002146002147000064002148002149000069,
    0x00216000216000004900216400216400005600216900216900005800216C00216C00004C00216D00216E000043,
    0x00216F00216F00004D00217000217000006900217400217400007600217900217900007800217C00217C00006C,
    0x00217D00217E00006300217F00217F00006D00232900232A0030080024600024680000310024B60024CF000041,
    0x0024D00024E90000610024EA0024EA000030002C7C002C7C00006A002C7D002C7D000056002D6F002D6F002D61,
    0x002E9F002E9F006BCD002EF3002EF3009F9F002F00002F00004E00002F01002F01004E28002F02002F02004E36,
    0x002F03002F03004E3F002F04002F04004E59002F05002F05004E85002F06002F06004E8C002F07002F07004EA0,
    0x002F08002F08004EBA002F09002F0900513F002F0A002F0A005165002F0B002F0B00516B002F0C002F0C005182,
    0x002F0D002F0D005196002F0E002F0E0051AB002F0F002F0F0051E0002F10002F100051F5002F11002F11005200,
    0x002F12002F1200529B002F13002F130052F9002F14002F14005315002F15002F1500531A002F16002F16005338,
    0x002F17002F17005341002F18002F1800535C002F19002F19005369002F1A002F1A005382002F1B002F1B0053B6,
    0x002F1C002F1C0053C8002F1D002F1D0053E3002F1E002F1E0056D7002F1F002F1F00571F002F20002F200058EB,
    0x002F21002F21005902002F22002F2200590A002F23002F23005915002F24002F24005927002F25002F25005973,
    0x002F26002F26005B50002F27002F27005B80002F28002F28005BF8002F29002F29005C0F002F2A002F2A005C22,
    0x002F2B002F2B005C38002F2C002F2C005C6E002F2D002F2D005C71002F2E002F2E005DDB002F2F002F2F005DE5,
    0x002F30002F30005DF1002F31002F31005DFE002F32002F32005E72002F33002F33005E7A002F34002F34005E7F,
    0x002F35002F35005EF4002F36002F36005EFE002F37002F37005F0B002F38002F38005F13002F39002F39005F50,
    0x002F3A002F3A005F61002F3B002F3B005F73002F3C002F3C005FC3002F3D002F3D006208002F3E002F3E006236,
    0x002F3F002F3F00624B002F40002F4000652F002F41002F41006534002F42002F42006587002F43002F43006597,
    0x002F44002F440065A4002F45002F450065B9002F46002F460065E0002F47002F470065E5002F48002F480066F0,
    0x002F49002F49006708002F4A002F4A006728002F4B002F4B006B20002F4C002F4C006B62002F4D002F4D006B79,
    0x002F4E002F4E006BB3002F4F002F4F006BCB002F50002F50006BD4002F51002F51006BDB002F52002F52006C0F,
    0x002F53002F53006C14002F54002F54006C34002F55002F5500706B002F56002F5600722A002F57002F57007236,
    0x002F58002F5800723B002F59002F5900723F002F5A002F5A007247002F5B002F5B007259002F5C002F5C00725B,
    0x002F5D002F5D0072AC002F5E002F5E007384002F5F002F5F007389002F60002F600074DC002F61002F610074E6,
    0x002F62002F62007518002F63002F6300751F002F64002F64007528002F65002F65007530002F66002F6600758B,
    0x002F67002F67007592002F68002F68007676002F69002F6900767D002F6A002F6A0076AE002F6B002F6B0076BF,
    0x002F6C002F6C0076EE002F6D002F6D0077DB002F6E002F6E0077E2002F6F002F6F0077F3002F70002F7000793A,
    0x002F71002F710079B8002F72002F720079BE002F73002F73007A74002F74002F74007ACB002F75002F75007AF9,
    0x002F76002F76007C73002F77002F77007CF8002F78002F78007F36002F79002F79007F51002F7A002F7A007F8A,
    0x002F7B002F7B007FBD002F7C002F7C008001002F7D002F7D00800C002F7E002F7E008012002F7F002F7F008033,
    0x002F80002F8000807F002F81002F81008089002F82002F820081E3002F83002F830081EA002F84002F840081F3,
    0x002F85002F850081FC002F86002F8600820C002F87002F8700821B002F88002F8800821F002F89002F8900826E,
    0x002F8A002F8A008272002F8B002F8B008278002F8C002F8C00864D002F8D002F8D00866B002F8E002F8E008840,
    0x002F8F002F8F00884C002F90002F90008863002F91002F9100897E002F92002F9200898B002F93002F930089D2,
    0x002F94002F94008A00002F95002F95008C37002F96002F96008C46002F97002F97008C55002F98002F98008C78,
    0x002F99002F99008C9D002F9A002F9A008D64002F9B002F9B008D70002F9C002F9C008DB3002F9D002F9D008EAB,
    0x002F9E002F9E008ECA002F9F002F9F008F9B002FA0002FA0008FB0002FA1002FA1008FB5002FA2002FA2009091,
    0x002FA3002FA3009149002FA4002FA40091C6002FA5002FA50091CC002FA6002FA60091D1002FA7002FA7009577,
    0x002FA8002FA8009580002FA9002FA900961C002FAA002FAA0096B6002FAB002FAB0096B9002FAC002FAC0096E8,
    0x002FAD002FAD009751002FAE002FAE00975E002FAF002FAF009762002FB0002FB0009769002FB1002FB10097CB,
    0x002FB2002FB20097ED002FB3002FB30097F3002FB4002FB4009801002FB5002FB50098A8002FB6002FB60098DB,
    0x002FB7002FB70098DF002FB8002FB8009996002FB9002FB9009999002FBA002FBA0099AC002FBB002FBB009AA8,
    0x002FBC002FBC009AD8002FBD002FBD009ADF002FBE002FBE009B25002FBF002FBF009B2F002FC0002FC0009B32,
    0x002FC1002FC1009B3C002FC2002FC2009B5A002FC3002FC3009CE5002FC4002FC4009E75002FC5002FC5009E7F,
    0x002FC6002FC6009EA5002FC7002FC7009EBB002FC8002FC8009EC3002FC9002FC9009ECD002FCA002FCA009ED1,
    0x002FCB002FCB009EF9002FCC002FCC009EFD002FCD002FCD009F0E002FCE002FCE009F13002FCF002FCF009F20,
    0x002FD0002FD0009F3B002FD1002FD1009F4A002FD2002FD2009F52002FD3002FD3009F8D002FD4002FD4009F9C,
    0x002FD5002FD5009FA000300000300000002000303600303600301200303800303800534100303900303A005344,
    0x0031310031320011000031330031330011AA0031340031340011020031350031360011AC003137003139001103,
    0x00313A00313F0011B000314000314000111A00314100314300110600314400314400112100314500314E001109,
    0x00314F0031630011610031640031640011600031650031660011140031670031680011C70031690031690011CC,
    0x00316A00316A0011CE00316B00316B0011D300316C00316C0011D700316D00316D0011D900316E00316E00111C,
    0x00316F00316F0011DD0031700031700011DF00317100317200111D003173003173001120003174003175001122,
    0x00317600317600112700317700317700112900317800317C00112B00317D00317D00113200317E00317E001136,
    0x00317F00317F00114000318000318000114700318100318100114C0031820031830011F1003184003186001157,
    0x00318700318800118400318900318900118800318A00318B00119100318C00318C00119400318D00318D00119E,
    0x00318E00318E0011A1003192003192004E00003193003193004E8C003194003194004E090031950031950056DB,
    0x003196003196004E0A003197003197004E2D003198003198004E0B00319900319900753200319A00319A004E59,
    0x00319B00319B004E1900319C00319C004E0100319D00319D00592900319E00319E00573000319F00319F004EBA,
    0x00324400324400554F003245003245005E7C003246003246006587003247003247007B8F003260003260001100,
    0x00326100326200110200326300326500110500326600326600110900326700326800110B00326900326D00110E,
    0x003280003280004E00003281003281004E8C003282003282004E090032830032830056DB003284003284004E94,
    0x00328500328500516D003286003286004E0300328700328700516B003288003288004E5D003289003289005341,
    0x00328A00328A00670800328B00328B00706B00328C00328C006C3400328D00328D00672800328E00328E0091D1,
    0x00328F00328F00571F0032900032900065E500329100329100682A00329200329200670900329300329300793E,
    0x00329400329400540D003295003295007279003296003296008CA100329700329700795D0032980032980052B4,
    0x0032990032990079D800329A00329A00753700329B00329B00597300329C00329C00906900329D00329D00512A,
    0x00329E00329E00537000329F00329F006CE80032A00032A00098050032A10032A1004F110032A20032A2005199,
    0x0032A30032A3006B630032A40032A4004E0A0032A50032A5004E2D0032A60032A6004E0B0032A70032A7005DE6,
    0x0032A80032A80053F30032A90032A900533B0032AA0032AA005B970032AB0032AB005B660032AC0032AC0076E3,
    0x0032AD0032AD004F010032AE0032AE008CC70032AF0032AF0053540032B00032B000591C0032D00032D00030A2,
    0x0032D10032D10030A40032D20032D20030A60032D30032D30030A80032D40032D50030AA0032D60032D60030AD,
    0x0032D70032D70030AF0032D80032D80030B10032D90032D90030B30032DA0032DA0030B50032DB0032DB0030B7,
    0x0032DC0032DC0030B90032DD0032DD0030BB0032DE0032DE0030BD0032DF0032DF0030BF0032E00032E00030C1,
    0x0032E10032E10030C40032E20032E20030C60032E30032E30030C80032E40032E90030CA0032EA0032EA0030D2,
    0x0032EB0032EB0030D50032EC0032EC0030D80032ED0032ED0030DB0032EE0032F20030DE0032F30032F30030E4,
    0x0032F40032F40030E60032F50032FA0030E80032FB0032FE0030EF00A69C00A69C00044A00A69D00A69D00044C,
    0x00A77000A77000A76F00A7F100A7F100005300A7F200A7F200004300A7F300A7F300004600A7F400A7F4000051,
    0x00A7F800A7F800012600A7F900A7F900015300AB5C00AB5C00A72700AB5D00AB5D00AB3700AB5E00AB5E00026B,
    0x00AB5F00AB5F00AB5200AB6900AB6900028D00F90000F900008C4800F90100F9010066F400F90200F902008ECA,
    0x00F90300F903008CC800F90400F904006ED100F90500F905004E3200F90600F9060053E500F90700F907009F9C,
    0x00F90800F908009F9C00F90900F90900595100F90A00F90A0091D100F90B00F90B00558700F90C00F90C005948,
    0x00F90D00F90D0061F600F90E00F90E00766900F90F00F90F007F8500F91000F91000863F00F91100F9110087BA,
    0x00F91200F9120088F800F91300F91300908F00F91400F914006A0200F91500F915006D1B00F91600F9160070D9,
    0x00F91700F9170073DE00F91800F91800843D00F91900F91900916A00F91A00F91A0099F100F91B00F91B004E82,
    0x00F91C00F91C00537500F91D00F91D006B0400F91E00F91E00721B00F91F00F91F00862D00F92000F920009E1E,
    0x00F92100F921005D5000F92200F922006FEB00F92300F9230085CD00F92400F92400896400F92500F9250062C9,
    0x00F92600F9260081D800F92700F92700881F00F92800F928005ECA00F92900F92900671700F92A00F92A006D6A,
    0x00F92B00F92B0072FC00F92C00F92C0090CE00F92D00F92D004F8600F92E00F92E0051B700F92F00F92F0052DE,
    0x00F93000F9300064C400F93100F931006AD300F93200F93200721000F93300F9330076E700F93400F934008001,
    0x00F93500F93500860600F93600F93600865C00F93700F937008DEF00F93800F93800973200F93900F939009B6F,
    0x00F93A00F93A009DFA00F93B00F93B00788C00F93C00F93C00797F00F93D00F93D007DA000F93E00F93E0083C9,
    0x00F93F00F93F00930400F94000F940009E7F00F94100F941008AD600F94200F9420058DF00F94300F943005F04,
    0x00F94400F944007C6000F94500F94500807E00F94600F94600726200F94700F9470078CA00F94800F948008CC2,
    0x00F94900F9490096F700F94A00F94A0058D800F94B00F94B005C6200F94C00F94C006A1300F94D00F94D006DDA,
    0x00F94E00F94E006F0F00F94F00F94F007D2F00F95000F950007E3700F95100F95100964B00F95200F9520052D2,
    0x00F95300F95300808B00F95400F9540051DC00F95500F9550051CC00F95600F956007A1C00F95700F957007DBE,
    0x00F95800F9580083F100F95900F95900967500F95A00F95A008B8000F95B00F95B0062CF00F95C00F95C006A02,
    0x00F95D00F95D008AFE00F95E00F95E004E3900F95F00F95F005BE700F96000F96000601200F96100F961007387,
    0x00F96200F96200757000F96300F96300531700F96400F9640078FB00F96500F965004FBF00F96600F966005FA9,
    0x00F96700F967004E0D00F96800F968006CCC00F96900F96900657800F96A00F96A007D2200F96B00F96B0053C3,
    0x00F96C00F96C00585E00F96D00F96D00770100F96E00F96E00844900F96F00F96F008AAA00F97000F970006BBA,
    0x00F97100F971008FB000F97200F972006C8800F97300F9730062FE00F97400F9740082E500F97500F9750063A0,
    0x00F97600F97600756500F97700F977004EAE00F97800F97800516900F97900F9790051C900F97A00F97A006881,
    0x00F97B00F97B007CE700F97C00F97C00826F00F97D00F97D008AD200F97E00F97E0091CF00F97F00F97F0052F5,
    0x00F98000F98000544200F98100F98100597300F98200F982005EEC00F98300F9830065C500F98400F984006FFE,
    0x00F98500F98500792A00F98600F9860095AD00F98700F987009A6A00F98800F988009E9700F98900F989009ECE,
    0x00F98A00F98A00529B00F98B00F98B0066C600F98C00F98C006B7700F98D00F98D008F6200F98E00F98E005E74,
    0x00F98F00F98F00619000F99000F99000620000F99100F99100649A00F99200F992006F2300F99300F993007149,
    0x00F99400F99400748900F99500F9950079CA00F99600F996007DF400F99700F99700806F00F99800F998008F26,
    0x00F99900F9990084EE00F99A00F99A00902300F99B00F99B00934A00F99C00F99C00521700F99D00F99D0052A3,
    0x00F99E00F99E0054BD00F99F00F99F0070C800F9A000F9A00088C200F9A100F9A1008AAA00F9A200F9A2005EC9,
    0x00F9A300F9A3005FF500F9A400F9A400637B00F9A500F9A5006BAE00F9A600F9A6007C3E00F9A700F9A7007375,
    0x00F9A800F9A8004EE400F9A900F9A90056F900F9AA00F9AA005BE700F9AB00F9AB005DBA00F9AC00F9AC00601C,
    0x00F9AD00F9AD0073B200F9AE00F9AE00746900F9AF00F9AF007F9A00F9B000F9B000804600F9B100F9B1009234,
    0x00F9B200F9B20096F600F9B300F9B300974800F9B400F9B400981800F9B500F9B5004F8B00F9B600F9B60079AE,
    0x00F9B700F9B70091B400F9B800F9B80096B800F9B900F9B90060E100F9BA00F9BA004E8600F9BB00F9BB0050DA,
    0x00F9BC00F9BC005BEE00F9BD00F9BD005C3F00F9BE00F9BE00659900F9BF00F9BF006A0200F9C000F9C00071CE,
    0x00F9C100F9C100764200F9C200F9C20084FC00F9C300F9C300907C00F9C400F9C4009F8D00F9C500F9C5006688,
    0x00F9C600F9C600962E00F9C700F9C700528900F9C800F9C800677B00F9C900F9C90067F300F9CA00F9CA006D41,
    0x00F9CB00F9CB006E9C00F9CC00F9CC00740900F9CD00F9CD00755900F9CE00F9CE00786B00F9CF00F9CF007D10,
    0x00F9D000F9D000985E00F9D100F9D100516D00F9D200F9D200622E00F9D300F9D300967800F9D400F9D400502B,
    0x00F9D500F9D5005D1900F9D600F9D6006DEA00F9D700F9D7008F2A00F9D800F9D8005F8B00F9D900F9D9006144,
    0x00F9DA00F9DA00681700F9DB00F9DB00738700F9DC00F9DC00968600F9DD00F9DD00522900F9DE00F9DE00540F,
    0x00F9DF00F9DF005C6500F9E000F9E000661300F9E100F9E100674E00F9E200F9E20068A800F9E300F9E3006CE5,
    0x00F9E400F9E400740600F9E500F9E50075E200F9E600F9E6007F7900F9E700F9E70088CF00F9E800F9E80088E1,
    0x00F9E900F9E90091CC00F9EA00F9EA0096E200F9EB00F9EB00533F00F9EC00F9EC006EBA00F9ED00F9ED00541D,
    0x00F9EE00F9EE0071D000F9EF00F9EF00749800F9F000F9F00085FA00F9F100F9F10096A300F9F200F9F2009C57,
    0x00F9F300F9F3009E9F00F9F400F9F400679700F9F500F9F5006DCB00F9F600F9F60081E800F9F700F9F7007ACB,
    0x00F9F800F9F8007B2000F9F900F9F9007C9200F9FA00F9FA0072C000F9FB00F9FB00709900F9FC00F9FC008B58,
    0x00F9FD00F9FD004EC000F9FE00F9FE00833600F9FF00F9FF00523A00FA0000FA0000520700FA0100FA01005EA6,
    0x00FA0200FA020062D300FA0300FA03007CD600FA0400FA04005B8500FA0500FA05006D1E00FA0600FA060066B4,
    0x00FA0700FA07008F3B00FA0800FA0800884C00FA0900FA0900964D00FA0A00FA0A00898B00FA0B00FA0B005ED3,
    0x00FA0C00FA0C00514000FA0D00FA0D0055C000FA1000FA1000585A00FA1200FA1200667400FA1500FA150051DE,
    0x00FA1600FA1600732A00FA1700FA170076CA00FA1800FA1800793C00FA1900FA1900795E00FA1A00FA1A007965,
    0x00FA1B00FA1B00798F00FA1C00FA1C00975600FA1D00FA1D007CBE00FA1E00FA1E007FBD00FA2000FA20008612,
    0x00FA2200FA22008AF800FA2500FA2500903800FA2600FA260090FD00FA2A00FA2A0098EF00FA2B00FA2B0098FC,
    0x00FA2C00FA2C00992800FA2D00FA2D009DB400FA2E00FA2E0090DE00FA2F00FA2F0096B700FA3000FA30004FAE,
    0x00FA3100FA310050E700FA3200FA3200514D00FA3300FA330052C900FA3400FA340052E400FA3500FA35005351,
    0x00FA3600FA3600559D00FA3700FA3700560600FA3800FA3800566800FA3900FA3900584000FA3A00FA3A0058A8,
    0x00FA3B00FA3B005C6400FA3C00FA3C005C6E00FA3D00FA3D00609400FA3E00FA3E00616800FA3F00FA3F00618E,
    0x00FA4000FA400061F200FA4100FA4100654F00FA4200FA420065E200FA4300FA4300669100FA4400FA44006885,
    0x00FA4500FA45006D7700FA4600FA46006E1A00FA4700FA47006F2200FA4800FA4800716E00FA4900FA4900722B,
    0x00FA4A00FA4A00742200FA4B00FA4B00789100FA4C00FA4C00793E00FA4D00FA4D00794900FA4E00FA4E007948,
    0x00FA4F00FA4F00795000FA5000FA5000795600FA5100FA5100795D00FA5200FA5300798D00FA5400FA54007A40,
    0x00FA5500FA55007A8100FA5600FA56007BC000FA5700FA57007DF400FA5800FA58007E0900FA5900FA59007E41,
    0x00FA5A00FA5A007F7200FA5B00FA5B00800500FA5C00FA5C0081ED00FA5D00FA5D00827900FA5E00FA5E008279,
    0x00FA5F00FA5F00845700FA6000FA6000891000FA6100FA6100899600FA6200FA62008B0100FA6300FA63008B39,
    0x00FA6400FA64008CD300FA6500FA65008D0800FA6600FA66008FB600FA6700FA6700903800FA6800FA680096E3,
    0x00FA6900FA690097FF00FA6A00FA6A00983B00FA6B00FA6B00607500FA6C00FA6C0242EE00FA6D00FA6D008218,
    0x00FA7000FA70004E2600FA7100FA710051B500FA7200FA7200516800FA7300FA73004F8000FA7400FA74005145,
    0x00FA7500FA7500518000FA7600FA760052C700FA7700FA770052FA00FA7800FA7800559D00FA7900FA79005555,
    0x00FA7A00FA7A00559900FA7B00FA7B0055E200FA7C00FA7C00585A00FA7D00FA7D0058B300FA7E00FA7E005944,
    0x00FA7F00FA7F00595400FA8000FA80005A6200FA8100FA81005B2800FA8200FA82005ED200FA8300FA83005ED9,
    0x00FA8400FA84005F6900FA8500FA85005FAD00FA8600FA860060D800FA8700FA8700614E00FA8800FA88006108,
    0x00FA8900FA8900618E00FA8A00FA8A00616000FA8B00FA8B0061F200FA8C00FA8C00623400FA8D00FA8D0063C4,
    0x00FA8E00FA8E00641C00FA8F00FA8F00645200FA9000FA9000655600FA9100FA9100667400FA9200FA92006717,
    0x00FA9300FA9300671B00FA9400FA9400675600FA9500FA95006B7900FA9600FA96006BBA00FA9700FA97006D41,
    0x00FA9800FA98006EDB00FA9900FA99006ECB00FA9A00FA9A006F2200FA9B00FA9B00701E00FA9C00FA9C00716E,
    0x00FA9D00FA9D0077A700FA9E00FA9E00723500FA9F00FA9F0072AF00FAA000FAA000732A00FAA100FAA1007471,
    0x00FAA200FAA200750600FAA300FAA300753B00FAA400FAA400761D00FAA500FAA500761F00FAA600FAA60076CA,
    0x00FAA700FAA70076DB00FAA800FAA80076F400FAA900FAA900774A00FAAA00FAAA00774000FAAB00FAAB0078CC,
    0x00FAAC00FAAC007AB100FAAD00FAAD007BC000FAAE00FAAE007C7B00FAAF00FAAF007D5B00FAB000FAB0007DF4,
    0x00FAB100FAB1007F3E00FAB200FAB200800500FAB300FAB300835200FAB400FAB40083EF00FAB500FAB5008779,
    0x00FAB600FAB600894100FAB700FAB700898600FAB800FAB800899600FAB900FAB9008ABF00FABA00FABA008AF8,
    0x00FABB00FABB008ACB00FABC00FABC008B0100FABD00FABD008AFE00FABE00FABE008AED00FABF00FABF008B39,
    0x00FAC000FAC0008B8A00FAC100FAC1008D0800FAC200FAC2008F3800FAC300FAC300907200FAC400FAC4009199,
    0x00FAC500FAC500927600FAC600FAC600967C00FAC700FAC70096E300FAC800FAC800975600FAC900FAC90097DB,
    0x00FACA00FACA0097FF00FACB00FACB00980B00FACC00FACC00983B00FACD00FACD009B1200FACE00FACE009F9C,
    0x00FACF00FACF02284A00FAD000FAD002284400FAD100FAD10233D500FAD200FAD2003B9D00FAD300FAD3004018,
    0x00FAD400FAD400403900FAD500FAD502524900FAD600FAD6025CD000FAD700FAD7027ED300FAD800FAD8009F43,
    0x00FAD900FAD9009F8E00FB2000FB200005E200FB2100FB210005D000FB2200FB230005D300FB2400FB260005DB,
    0x00FB2700FB270005E800FB2800FB280005EA00FB2900FB2900002B00FB5000FB5000067100FB5100FB51000671,
    0x00FB5200FB5200067B00FB5300FB5300067B00FB5400FB5400067B00FB5500FB5500067B00FB5600FB5600067E,
    0x00FB5700FB5700067E00FB5800FB5800067E00FB5900FB5900067E00FB5A00FB5A00068000FB5B00FB5B000680,
    0x00FB5C00FB5C00068000FB5D00FB5D00068000FB5E00FB5E00067A00FB5F00FB5F00067A00FB6000FB6000067A,
    0x00FB6100FB6100067A00FB6200FB6200067F00FB6300FB6300067F00FB6400FB6400067F00FB6500FB6500067F,
    0x00FB6600FB6600067900FB6700FB6700067900FB6800FB6800067900FB6900FB6900067900FB6A00FB6A0006A4,
    0x00FB6B00FB6B0006A400FB6C00FB6C0006A400FB6D00FB6D0006A400FB6E00FB6E0006A600FB6F00FB6F0006A6,
    0x00FB7000FB700006A600FB7100FB710006A600FB7200FB7200068400FB7300FB7300068400FB7400FB74000684,
    0x00FB7500FB7500068400FB7600FB7600068300FB7700FB7700068300FB7800FB7800068300FB7900FB79000683,
    0x00FB7A00FB7A00068600FB7B00FB7B00068600FB7C00FB7C00068600FB7D00FB7E00068600FB7F00FB7F000687,
    0x00FB8000FB8000068700FB8100FB8100068700FB8200FB8200068D00FB8300FB8300068D00FB8400FB8400068C,
    0x00FB8500FB8500068C00FB8600FB8600068E00FB8700FB8700068E00FB8800FB8800068800FB8900FB89000688,
    0x00FB8A00FB8A00069800FB8B00FB8B00069800FB8C00FB8C00069100FB8D00FB8D00069100FB8E00FB8E0006A9,
    0x00FB8F00FB8F0006A900FB9000FB900006A900FB9100FB910006A900FB9200FB920006AF00FB9300FB930006AF,
    0x00FB9400FB940006AF00FB9500FB950006AF00FB9600FB960006B300FB9700FB970006B300FB9800FB980006B3,
    0x00FB9900FB990006B300FB9A00FB9A0006B100FB9B00FB9B0006B100FB9C00FB9C0006B100FB9D00FB9D0006B1,
    0x00FB9E00FB9E0006BA00FB9F00FBA00006BA00FBA100FBA10006BB00FBA200FBA20006BB00FBA300FBA30006BB,
    0x00FBA600FBA60006C100FBA700FBA70006C100FBA800FBA80006C100FBA900FBA90006C100FBAA00FBAA0006BE,
    0x00FBAB00FBAB0006BE00FBAC00FBAC0006BE00FBAD00FBAD0006BE00FBAE00FBAE0006D200FBAF00FBAF0006D2,
    0x00FBD300FBD30006AD00FBD400FBD40006AD00FBD500FBD50006AD00FBD600FBD60006AD00FBD700FBD70006C7,
    0x00FBD800FBD80006C700FBD900FBD90006C600FBDA00FBDA0006C600FBDB00FBDB0006C800FBDC00FBDC0006C8,
    0x00FBDE00FBDE0006CB00FBDF00FBDF0006CB00FBE000FBE00006C500FBE100FBE10006C500FBE200FBE20006C9,
    0x00FBE300FBE30006C900FBE400FBE40006D000FBE500FBE50006D000FBE600FBE60006D000FBE700FBE70006D0,
    0x00FBE800FBE800064900FBE900FBE900064900FBFC00FBFC0006CC00FBFD00FBFD0006CC00FBFE00FBFE0006CC,
    0x00FBFF00FBFF0006CC00FE1000FE1000002C00FE1100FE1200300100FE1300FE1400003A00FE1500FE15000021,
    0x00FE1600FE1600003F00FE1700FE1800301600FE3100FE3100201400FE3200FE3200201300FE3300FE3300005F,
    0x00FE3400FE3400005F00FE3500FE3600002800FE3700FE3700007B00FE3800FE3800007D00FE3900FE3A003014,
    0x00FE3B00FE3C00301000FE3D00FE3E00300A00FE3F00FE4000300800FE4100FE4400300C00FE4700FE4700005B,
    0x00FE4800FE4800005D00FE4D00FE4D00005F00FE4E00FE4E00005F00FE4F00FE4F00005F00FE5000FE5000002C,
    0x00FE5100FE5100300100FE5200FE5200002E00FE5400FE5400003B00FE5500FE5500003A00FE5600FE5600003F,
    0x00FE5700FE5700002100FE5800FE5800201400FE5900FE5A00002800FE5B00FE5B00007B00FE5C00FE5C00007D,
    0x00FE5D00FE5E00301400FE5F00FE5F00002300FE6000FE6000002600FE6100FE6200002A00FE6300FE6300002D,
    0x00FE6400FE6400003C00FE6500FE6500003E00FE6600FE6600003D00FE6800FE6800005C00FE6900FE6A000024,
    0x00FE6B00FE6B00004000FE8000FE8000062100FE8D00FE8D00062700FE8E00FE8F00062700FE9000FE90000628,
    0x00FE9100FE9100062800FE9200FE9300062800FE9400FE9500062900FE9600FE9600062A00FE9700FE9700062A,
    0x00FE9800FE9900062A00FE9A00FE9A00062B00FE9B00FE9B00062B00FE9C00FE9D00062B00FE9E00FE9E00062C,
    0x00FE9F00FE9F00062C00FEA000FEA100062C00FEA200FEA200062D00FEA300FEA300062D00FEA400FEA500062D,
    0x00FEA600FEA600062E00FEA700FEA700062E00FEA800FEA900062E00FEAA00FEAB00062F00FEAC00FEAD000630,
    0x00FEAE00FEAF00063100FEB000FEB100063200FEB200FEB200063300FEB300FEB300063300FEB400FEB5000633,
    0x00FEB600FEB600063400FEB700FEB700063400FEB800FEB900063400FEBA00FEBA00063500FEBB00FEBB000635,
    0x00FEBC00FEBD00063500FEBE00FEBE00063600FEBF00FEBF00063600FEC000FEC100063600FEC200FEC2000637,
    0x00FEC300FEC300063700FEC400FEC500063700FEC600FEC600063800FEC700FEC700063800FEC800FEC9000638,
    0x00FECA00FECA00063900FECB00FECB00063900FECC00FECD00063900FECE00FECE00063A00FECF00FECF00063A,
    0x00FED000FED000063A00FED100FED100064100FED200FED200064100FED300FED300064100FED400FED5000641,
    0x00FED600FED600064200FED700FED700064200FED800FED900064200FEDA00FEDA00064300FEDB00FEDB000643,
    0x00FEDC00FEDD00064300FEDE00FEDE00064400FEDF00FEDF00064400FEE000FEE100064400FEE200FEE2000645,
    0x00FEE300FEE300064500FEE400FEE500064500FEE600FEE600064600FEE700FEE700064600FEE800FEE9000646,
    0x00FEEA00FEEA00064700FEEB00FEEB00064700FEEC00FEED00064700FEEE00FEEF00064800FEF000FEF1000649,
    0x00FEF200FEF200064A00FEF300FEF300064A00FEF400FEF400064A00FF0100FF5E00002100FF5F00FF60002985,
    0x00FF6100FF6100300200FF6200FF6300300C00FF6400FF6400300100FF6500FF650030FB00FF6600FF660030F2,
    0x00FF6700FF670030A100FF6800FF680030A300FF6900FF690030A500FF6A00FF6A0030A700FF6B00FF6B0030A9,
    0x00FF6C00FF6C0030E300FF6D00FF6D0030E500FF6E00FF6E0030E700FF6F00FF6F0030C300FF7000FF700030FC,
    0x00FF7100FF710030A200FF7200FF720030A400FF7300FF730030A600FF7400FF740030A800FF7500FF760030AA,
    0x00FF7700FF770030AD00FF7800FF780030AF00FF7900FF790030B100FF7A00FF7A0030B300FF7B00FF7B0030B5,
    0x00FF7C00FF7C0030B700FF7D00FF7D0030B900FF7E00FF7E0030BB00FF7F00FF7F0030BD00FF8000FF800030BF,
    0x00FF8100FF810030C100FF8200FF820030C400FF8300FF830030C600FF8400FF840030C800FF8500FF8A0030CA,
    0x00FF8B00FF8B0030D200FF8C00FF8C0030D500FF8D00FF8D0030D800FF8E00FF8E0030DB00FF8F00FF930030DE,
    0x00FF9400FF940030E400FF9500FF950030E600FF9600FF9B0030E800FF9C00FF9C0030EF00FF9D00FF9D0030F3,
    0x00FF9E00FF9F00309900FFA000FFA000116000FFA100FFA200110000FFA300FFA30011AA00FFA400FFA4001102,
    0x00FFA500FFA60011AC00FFA700FFA900110300FFAA00FFAF0011B000FFB000FFB000111A00FFB100FFB3001106,
    0x00FFB400FFB400112100FFB500FFBE00110900FFC200FFC700116100FFCA00FFCF00116700FFD200FFD700116D,
    0x00FFDA00FFDC00117300FFE000FFE10000A200FFE200FFE20000AC00FFE400FFE40000A600FFE500FFE50000A5,
    0x00FFE600FFE60020A900FFE800FFE800250200FFE900FFEC00219000FFED00FFED0025A000FFEE00FFEE0025CB,
    0x0107810107820002D00107830107830000E60107840107840002990107850107850002530107870107870002A3,
    0x01078801078800AB660107890107890002A501078A01078A0002A401078B01078C00025601078D01078D001D91,
    0x01078E01078E00025801078F01078F00025E0107900107900002A9010791010791000264010792010792000262,
    0x01079301079300026001079401079400029B01079501079500012701079601079600029C010797010797000267,
    0x01079801079800028401079901079A0002AA01079B01079B00026C01079C01079C01DF0401079D01079D00A78E,
    0x01079E01079E00026E01079F01079F01DF050107A00107A000028E0107A10107A101DF060107A20107A20000F8,
    0x0107A30107A40002760107A50107A50000710107A60107A600027A0107A70107A701DF080107A80107A900027D,
    0x0107AA0107AA0002800107AB0107AB0002A80107AC0107AC0002A60107AD0107AD00AB670107AE0107AE0002A7,
    0x0107AF0107AF0002880107B00107B0002C710107B20107B200028F0107B30107B40002A10107B50107B5000298,
    0x0107B60107B80001C00107B90107B901DF0A0107BA0107BA01DF1E01CCD601CCEF00004101CCF001CCF9000030,
    0x01D40001D41900004101D41A01D43300006101D43401D44D00004101D44E01D45400006101D45601D467000069,
    0x01D46801D48100004101D48201D49B00006101D49C01D49C00004101D49E01D49F00004301D4A201D4A2000047,
    0x01D4A501D4A600004A01D4A901D4AC00004E01D4AE01D4B500005301D4B601D4B900006101D4BB01D4BB000066,
    0x01D4BD01D4C300006801D4C501D4CF00007001D4D001D4E900004101D4EA01D50300006101D50401D505000041,
    0x01D50701D50A00004401D50D01D51400004A01D51601D51C00005301D51E01D53700006101D53801D539000041,
    0x01D53B01D53E00004401D54001D54400004901D54601D54600004F01D54A01D55000005301D55201D56B000061,
    0x01D56C01D58500004101D58601D59F00006101D5A001D5B900004101D5BA01D5D300006101D5D401D5ED000041,
    0x01D5EE01D60700006101D60801D62100004101D62201D63B00006101D63C01D65500004101D65601D66F000061,
    0x01D67001D68900004101D68A01D6A300006101D6A401D6A400013101D6A501D6A500023701D6A801D6B8000391,
    0x01D6B901D6B900039801D6BA01D6C00003A301D6C101D6C100220701D6C201D6DA0003B101D6DB01D6DB002202,
    0x01D6DC01D6DC0003B501D6DD01D6DD0003B801D6DE01D6DE0003BA01D6DF01D6DF0003C601D6E001D6E00003C1,
    0x01D6E101D6E10003C001D6E201D6F200039101D6F301D6F300039801D6F401D6FA0003A301D6FB01D6FB002207,
    0x01D6FC01D7140003B101D71501D71500220201D71601D7160003B501D71701D7170003B801D71801D7180003BA,
    0x01D71901D7190003C601D71A01D71A0003C101D71B01D71B0003C001D71C01D72C00039101D72D01D72D000398,
    0x01D72E01D7340003A301D73501D73500220701D73601D74E0003B101D74F01D74F00220201D75001D7500003B5,
    0x01D75101D7510003B801D75201D7520003BA01D75301D7530003C601D75401D7540003C101D75501D7550003C0,
    0x01D75601D76600039101D76701D76700039801D76801D76E0003A301D76F01D76F00220701D77001D7880003B1,
    0x01D78901D78900220201D78A01D78A0003B501D78B01D78B0003B801D78C01D78C0003BA01D78D01D78D0003C6,
    0x01D78E01D78E0003C101D78F01D78F0003C001D79001D7A000039101D7A101D7A100039801D7A201D7A80003A3,
    0x01D7A901D7A900220701D7AA01D7C20003B101D7C301D7C300220201D7C401D7C40003B501D7C501D7C50003B8,
    0x01D7C601D7C60003BA01D7C701D7C70003C601D7C801D7C80003C101D7C901D7C90003C001D7CA01D7CB0003DC,
    0x01D7CE01D7D700003001D7D801D7E100003001D7E201D7EB00003001D7EC01D7F500003001D7F601D7FF000030,
    0x01E03001E03800043001E03901E03B00043A01E03C01E04600043E01E04701E04700044B01E04801E04900044D,
    0x01E04A01E04A00A68901E04B01E04B0004D901E04C01E04C00045601E04D01E04D00045801E04E01E04E0004E9,
    0x01E04F01E04F0004AF01E05001E0500004CF01E05101E05900043001E05A01E05B00043A01E05C01E05D00043E,
    0x01E05E01E05E00044101E05F01E06400044301E06501E06600044A01E06701E06700049101E06801E068000456,
    0x01E06901E06900045501E06A01E06A00045F01E06B01E06B0004AB01E06C01E06C00A65101E06D01E06D0004B1,
    0x01EE0001EE0100062701EE0201EE0200062C01EE0301EE0300062F01EE0501EE0500064801EE0601EE06000632,
    0x01EE0701EE0700062D01EE0801EE0800063701EE0901EE0900064A01EE0A01EE0D00064301EE0E01EE0E000633,
    0x01EE0F01EE0F00063901EE1001EE1000064101EE1101EE1100063501EE1201EE1200064201EE1301EE13000631,
    0x01EE1401EE1400063401EE1501EE1600062A01EE1701EE1700062E01EE1801EE1800063001EE1901EE19000636,
    0x01EE1A01EE1A00063801EE1B01EE1B00063A01EE1C01EE1C00066E01EE1D01EE1D0006BA01EE1E01EE1E0006A1,
    0x01EE1F01EE1F00066F01EE2101EE2100062801EE2201EE2200062C01EE2401EE2400064701EE2701EE2700062D,
    0x01EE2901EE2900064A01EE2A01EE2D00064301EE2E01EE2E00063301EE2F01EE2F00063901EE3001EE30000641,
    0x01EE3101EE3100063501EE3201EE3200064201EE3401EE3400063401EE3501EE3600062A01EE3701EE3700062E,
    0x01EE3901EE3900063601EE3B01EE3B00063A01EE4201EE4200062C01EE4701EE4700062D01EE4901EE4900064A,
    0x01EE4B01EE4B00064401EE4D01EE4D00064601EE4E01EE4E00063301EE4F01EE4F00063901EE5101EE51000635,
    0x01EE5201EE5200064201EE5401EE5400063401EE5701EE5700062E01EE5901EE5900063601EE5B01EE5B00063A,
    0x01EE5D01EE5D0006BA01EE5F01EE5F00066F01EE6101EE6100062801EE6201EE6200062C01EE6401EE64000647,
    0x01EE6701EE6700062D01EE6801EE6800063701EE6901EE6900064A01EE6A01EE6A00064301EE6C01EE6D000645,
    0x01EE6E01EE6E00063301EE6F01EE6F00063901EE7001EE7000064101EE7101EE7100063501EE7201EE72000642,
    0x01EE7401EE7400063401EE7501EE7600062A01EE7701EE7700062E01EE7901EE7900063601EE7A01EE7A000638,
    0x01EE7B01EE7B00063A01EE7C01EE7C00066E01EE7E01EE7E0006A101EE8001EE8100062701EE8201EE8200062C,
    0x01EE8301EE8300062F01EE8401EE8500064701EE8601EE8600063201EE8701EE8700062D01EE8801EE88000637,
    0x01EE8901EE8900064A01EE8B01EE8D00064401EE8E01EE8E00063301EE8F01EE8F00063901EE9001EE90000641,
    0x01EE9101EE9100063501EE9201EE9200064201EE9301EE9300063101EE9401EE9400063401EE9501EE9600062A,
    0x01EE9701EE9700062E01EE9801EE9800063001EE9901EE9900063601EE9A01EE9A00063801EE9B01EE9B00063A,
    0x01EEA101EEA100062801EEA201EEA200062C01EEA301EEA300062F01EEA501EEA500064801EEA601EEA6000632,
    0x01EEA701EEA700062D01EEA801EEA800063701EEA901EEA900064A01EEAB01EEAD00064401EEAE01EEAE000633,
    0x01EEAF01EEAF00063901EEB001EEB000064101EEB101EEB100063501EEB201EEB200064201EEB301EEB3000631,
    0x01EEB401EEB400063401EEB501EEB600062A01EEB701EEB700062E01EEB801EEB800063001EEB901EEB9000636,
    0x01EEBA01EEBA00063801EEBB01EEBB00063A01F12B01F12B00004301F12C01F12C00005201F13001F149000041,
    0x01F20201F2020030B501F21001F21000624B01F21101F211005B5701F21201F2120053CC01F21401F214004E8C,
    0x01F21501F21500591A01F21601F2160089E301F21701F21700592901F21801F218004EA401F21901F219006620,
    0x01F21A01F21A00712101F21B01F21B00659901F21C01F21C00524D01F21D01F21D005F8C01F21E01F21E00518D,
    0x01F21F01F21F0065B001F22001F22000521D01F22101F221007D4201F22201F22200751F01F22301F223008CA9,
    0x01F22401F2240058F001F22501F22500543901F22601F226006F1401F22701F22700629501F22801F228006355,
    0x01F22901F229004E0001F22A01F22A004E0901F22B01F22B00904A01F22C01F22C005DE601F22D01F22D004E2D,
    0x01F22E01F22E0053F301F22F01F22F00630701F23001F230008D7001F23101F23100625301F23201F232007981,
    0x01F23301F233007A7A01F23401F23400540801F23501F235006E8001F23601F23600670901F23701F237006708,
    0x01F23801F23800753301F23901F23900527201F23A01F23A0055B601F23B01F23B00914D01F25001F250005F97,
    0x01F25101F2510053EF01FBF001FBF900003002F80002F800004E3D02F80102F801004E3802F80202F802004E41,
    0x02F80302F80302012202F80402F804004F6002F80502F805004FAE02F80602F806004FBB02F80702F807005002,
    0x02F80802F80800507A02F80902F80900509902F80A02F80A0050E702F80B02F80B0050CF02F80C02F80C00349E,
    0x02F80D02F80D02063A02F80E02F80E00514D02F80F02F80F00515402F81002F81000516402F81102F811005177,
    0x02F81202F81202051C02F81302F8130034B902F81402F81400516702F81502F81500518D02F81602F81602054B,
    0x02F81702F81700519702F81802F8180051A402F81902F819004ECC02F81A02F81A0051AC02F81B02F81B0051B5,
    0x02F81C02F81C0291DF02F81D02F81D0051F502F81E02F81E00520302F81F02F81F0034DF02F82002F82000523B,
    0x02F82102F82100524602F82202F82200527202F82302F82300527702F82402F82400351502F82502F8250052C7,
    0x02F82602F8260052C902F82702F8270052E402F82802F8280052FA02F82902F82A00530502F82B02F82B005317,
    0x02F82C02F82C00534902F82D02F82D00535102F82E02F82E00535A02F82F02F82F00537302F83002F83000537D,
    0x02F83102F83100537F02F83202F83200537F02F83302F83300537F02F83402F834020A2C02F83502F835007070,
    0x02F83602F8360053CA02F83702F8370053DF02F83802F838020B6302F83902F8390053EB02F83A02F83A0053F1,
    0x02F83B02F83B00540602F83C02F83C00549E02F83D02F83D00543802F83E02F83E00544802F83F02F83F005468,
    0x02F84002F8400054A202F84102F8410054F602F84202F84200551002F84302F84300555302F84402F844005563,
    0x02F84502F84500558402F84602F84600558402F84702F84700559902F84802F8480055AB02F84902F8490055B3,
    0x02F84A02F84A0055C202F84B02F84B00571602F84C02F84C00560602F84D02F84D00571702F84E02F84E005651,
    0x02F84F02F84F00567402F85002F85000520702F85102F8510058EE02F85202F8520057CE02F85302F8530057F4,
    0x02F85402F85400580D02F85502F85500578B02F85602F85600583202F85702F85700583102F85802F8580058AC,
    0x02F85902F8590214E402F85A02F85A0058F202F85B02F85B0058F702F85C02F85C00590602F85D02F85D00591A,
    0x02F85E02F85E00592202F85F02F85F00596202F86002F8600216A802F86102F8610216EA02F86202F8620059EC,
    0x02F86302F863005A1B02F86402F864005A2702F86502F8650059D802F86602F866005A6602F86702F8670036EE,
    0x02F86802F8680036FC02F86902F869005B0802F86A02F86A005B3E02F86B02F86B005B3E02F86C02F86C0219C8,
    0x02F86D02F86D005BC302F86E02F86E005BD802F86F02F86F005BE702F87002F870005BF302F87102F871021B18,
    0x02F87202F872005BFF02F87302F873005C0602F87402F874005F5302F87502F875005C2202F87602F876003781,
    0x02F87702F877005C6002F87802F878005C6E02F87902F879005CC002F87A02F87A005C8D02F87B02F87B021DE4,
    0x02F87C02F87C005D4302F87D02F87D021DE602F87E02F87E005D6E02F87F02F87F005D6B02F88002F880005D7C,
    0x02F88102F882005DE102F88302F88300382F02F88402F884005DFD02F88502F885005E2802F88602F886005E3D,
    0x02F88702F887005E6902F88802F88800386202F88902F88902218302F88A02F88A00387C02F88B02F88B005EB0,
    0x02F88C02F88C005EB302F88D02F88D005EB602F88E02F88E005ECA02F88F02F88F02A39202F89002F890005EFE,
    0x02F89102F89102233102F89202F89202233102F89302F89300820102F89402F894005F2202F89502F895005F22,
    0x02F89602F8960038C702F89702F8970232B802F89802F8980261DA02F89902F899005F6202F89A02F89A005F6B,
    0x02F89B02F89B0038E302F89C02F89C005F9A02F89D02F89D005FCD02F89E02F89E005FD702F89F02F89F005FF9,
    0x02F8A002F8A000608102F8A102F8A100393A02F8A202F8A200391C02F8A302F8A300609402F8A402F8A40226D4,
    0x02F8A502F8A50060C702F8A602F8A600614802F8A702F8A700614C02F8A802F8A800614E02F8A902F8A900614C,
    0x02F8AA02F8AA00617A02F8AB02F8AB00618E02F8AC02F8AC0061B202F8AD02F8AD0061A402F8AE02F8AE0061AF,
    0x02F8AF02F8AF0061DE02F8B002F8B00061F202F8B102F8B10061F602F8B202F8B200621002F8B302F8B300621B,
    0x02F8B402F8B400625D02F8B502F8B50062B102F8B602F8B60062D402F8B702F8B700635002F8B802F8B8022B0C,
    0x02F8B902F8B900633D02F8BA02F8BA0062FC02F8BB02F8BB00636802F8BC02F8BC00638302F8BD02F8BD0063E4,
    0x02F8BE02F8BE022BF102F8BF02F8BF00642202F8C002F8C00063C502F8C102F8C10063A902F8C202F8C2003A2E,
    0x02F8C302F8C300646902F8C402F8C400647E02F8C502F8C500649D02F8C602F8C600647702F8C702F8C7003A6C,
    0x02F8C802F8C800654F02F8C902F8C900656C02F8CA02F8CA02300A02F8CB02F8CB0065E302F8CC02F8CC0066F8,
    0x02F8CD02F8CD00664902F8CE02F8CE003B1902F8CF02F8CF00669102F8D002F8D0003B0802F8D102F8D1003AE4,
    0x02F8D202F8D200519202F8D302F8D300519502F8D402F8D400670002F8D502F8D500669C02F8D602F8D60080AD,
    0x02F8D702F8D70043D902F8D802F8D800671702F8D902F8D900671B02F8DA02F8DA00672102F8DB02F8DB00675E,
    0x02F8DC02F8DC00675302F8DD02F8DD0233C302F8DE02F8DE003B4902F8DF02F8DF0067FA02F8E002F8E0006785,
    0x02F8E102F8E100685202F8E202F8E200688502F8E302F8E302346D02F8E402F8E400688E02F8E502F8E500681F,
    0x02F8E602F8E600691402F8E702F8E7003B9D02F8E802F8E800694202F8E902F8E90069A302F8EA02F8EA0069EA,
    0x02F8EB02F8EB006AA802F8EC02F8EC0236A302F8ED02F8ED006ADB02F8EE02F8EE003C1802F8EF02F8EF006B21,
    0x02F8F002F8F00238A702F8F102F8F1006B5402F8F202F8F2003C4E02F8F302F8F3006B7202F8F402F8F4006B9F,
    0x02F8F502F8F6006BBA02F8F702F8F7023A8D02F8F802F8F8021D0B02F8F902F8F9023AFA02F8FA02F8FA006C4E,
    0x02F8FB02F8FB023CBC02F8FC02F8FC006CBF02F8FD02F8FD006CCD02F8FE02F8FE006C6702F8FF02F8FF006D16,
    0x02F90002F900006D3E02F90102F901006D7702F90202F902006D4102F90302F903006D6902F90402F904006D78,
    0x02F90502F905006D8502F90602F906023D1E02F90702F907006D3402F90802F908006E2F02F90902F909006E6E,
    0x02F90A02F90A003D3302F90B02F90B006ECB02F90C02F90C006EC702F90D02F90D023ED102F90E02F90E006DF9,
    0x02F90F02F90F006F6E02F91002F910023F5E02F91102F911023F8E02F91202F912006FC602F91302F913007039,
    0x02F91402F91400701E02F91502F91500701B02F91602F916003D9602F91702F91700704A02F91802F91800707D,
    0x02F91902F91900707702F91A02F91A0070AD02F91B02F91B02052502F91C02F91C00714502F91D02F91D024263,
    0x02F91E02F91E00719C02F91F02F91F0243AB02F92002F92000722802F92102F92100723502F92202F922007250,
    0x02F92302F92302460802F92402F92400728002F92502F92500729502F92602F92602473502F92702F927024814,
    0x02F92802F92800737A02F92902F92900738B02F92A02F92A003EAC02F92B02F92B0073A502F92C02F92C003EB8,
    0x02F92D02F92D003EB802F92E02F92E00744702F92F02F92F00745C02F93002F93000747102F93102F931007485,
    0x02F93202F9320074CA02F93302F933003F1B02F93402F93400752402F93502F935024C3602F93602F93600753E,
    0x02F93702F937024C9202F93802F93800757002F93902F93902219F02F93A02F93A00761002F93B02F93B024FA1,
    0x02F93C02F93C024FB802F93D02F93D02504402F93E02F93E003FFC02F93F02F93F00400802F94002F9400076F4,
    0x02F94102F9410250F302F94202F9420250F202F94302F94302511902F94402F94402513302F94502F94600771E,
    0x02F94702F94700771F02F94802F94800774A02F94902F94900403902F94A02F94A00778B02F94B02F94B004046,
    0x02F94C02F94C00409602F94D02F94D02541D02F94E02F94E00784E02F94F02F94F00788C02F95002F9500078CC,
    0x02F95102F9510040E302F95202F95202562602F95302F95300795602F95402F95402569A02F95502F9550256C5,
    0x02F95602F95600798F02F95702F9570079EB02F95802F95800412F02F95902F959007A4002F95A02F95A007A4A,
    0x02F95B02F95B007A4F02F95C02F95C02597C02F95D02F95D025AA702F95E02F95E025AA702F95F02F95F007AEE,
    0x02F96002F96000420202F96102F961025BAB02F96202F962007BC602F96302F963007BC902F96402F964004227,
    0x02F96502F965025C8002F96602F966007CD202F96702F9670042A002F96802F968007CE802F96902F969007CE3,
    0x02F96A02F96A007D0002F96B02F96B025F8602F96C02F96C007D6302F96D02F96D00430102F96E02F96E007DC7,
    0x02F96F02F96F007E0202F97002F970007E4502F97102F97100433402F97202F97202622802F97302F973026247,
    0x02F97402F97400435902F97502F9750262D902F97602F976007F7A02F97702F97702633E02F97802F978007F95,
    0x02F97902F979007FFA02F97A02F97A00800502F97B02F97B0264DA02F97C02F97C02652302F97D02F97D008060,
    0x02F97E02F97E0265A802F97F02F97F00807002F98002F98002335F02F98102F9810043D502F98202F9820080B2,
    0x02F98302F98300810302F98402F98400440B02F98502F98500813E02F98602F986005AB502F98702F9870267A7,
    0x02F98802F9880267B502F98902F98902339302F98A02F98A02339C02F98B02F98B00820102F98C02F98C008204,
    0x02F98D02F98D008F9E02F98E02F98E00446B02F98F02F98F00829102F99002F99000828B02F99102F99100829D,
    0x02F99202F9920052B302F99302F9930082B102F99402F9940082B302F99502F9950082BD02F99602F9960082E6,
    0x02F99702F997026B3C02F99802F9980082E502F99902F99900831D02F99A02F99A00836302F99B02F99B0083AD,
    0x02F99C02F99C00832302F99D02F99D0083BD02F99E02F99E0083E702F99F02F99F00845702F9A002F9A0008353,
    0x02F9A102F9A10083CA02F9A202F9A20083CC02F9A302F9A30083DC02F9A402F9A4026C3602F9A502F9A5026D6B,
    0x02F9A602F9A6026CD502F9A702F9A700452B02F9A802F9A80084F102F9A902F9A90084F302F9AA02F9AA008516,
    0x02F9AB02F9AB0273CA02F9AC02F9AC00856402F9AD02F9AD026F2C02F9AE02F9AE00455D02F9AF02F9AF004561,
    0x02F9B002F9B0026FB102F9B102F9B10270D202F9B202F9B200456B02F9B302F9B300865002F9B402F9B400865C,
    0x02F9B502F9B500866702F9B602F9B600866902F9B702F9B70086A902F9B802F9B800868802F9B902F9B900870E,
    0x02F9BA02F9BA0086E202F9BB02F9BB00877902F9BC02F9BC00872802F9BD02F9BD00876B02F9BE02F9BE008786,
    0x02F9BF02F9BF0045D702F9C002F9C00087E102F9C102F9C100880102F9C202F9C20045F902F9C302F9C3008860,
    0x02F9C402F9C400886302F9C502F9C502766702F9C602F9C60088D702F9C702F9C70088DE02F9C802F9C8004635,
    0x02F9C902F9C90088FA02F9CA02F9CA0034BB02F9CB02F9CB0278AE02F9CC02F9CC02796602F9CD02F9CD0046BE,
    0x02F9CE02F9CE0046C702F9CF02F9CF008AA002F9D002F9D0008AED02F9D102F9D1008B8A02F9D202F9D2008C55,
    0x02F9D302F9D3027CA802F9D402F9D4008CAB02F9D502F9D5008CC102F9D602F9D6008D1B02F9D702F9D7008D77,
    0x02F9D802F9D8027F2F02F9D902F9D902080402F9DA02F9DA008DCB02F9DB02F9DB008DBC02F9DC02F9DC008DF0,
    0x02F9DD02F9DD0208DE02F9DE02F9DE008ED402F9DF02F9DF008F3802F9E002F9E00285D202F9E102F9E10285ED,
    0x02F9E202F9E200909402F9E302F9E30090F102F9E402F9E400911102F9E502F9E502872E02F9E602F9E600911B,
    0x02F9E702F9E700923802F9E802F9E90092D702F9EA02F9EA00927C02F9EB02F9EB0093F902F9EC02F9EC009415,
    0x02F9ED02F9ED028BFA02F9EE02F9EE00958B02F9EF02F9EF00499502F9F002F9F00095B702F9F102F9F1028D77,
    0x02F9F202F9F20049E602F9F302F9F30096C302F9F402F9F4005DB202F9F502F9F500972302F9F602F9F6029145,
    0x02F9F702F9F702921A02F9F802F9F8004A6E02F9F902F9F9004A7602F9FA02F9FA0097E002F9FB02F9FB02940A,
    0x02F9FC02F9FC004AB202F9FD02F9FD02949602F9FE02F9FE00980B02F9FF02F9FF00980B02FA0002FA00009829,
    0x02FA0102FA010295B602FA0202FA020098E202FA0302FA03004B3302FA0402FA0400992902FA0502FA050099A7,
    0x02FA0602FA060099C202FA0702FA070099FE02FA0802FA08004BCE02FA0902FA09029B3002FA0A02FA0A009B12,
    0x02FA0B02FA0B009C4002FA0C02FA0C009CFD02FA0D02FA0D004CCE02FA0E02FA0E004CED02FA0F02FA0F009D67,
    0x02FA1002FA1002A0CE02FA1102FA11004CF802FA1202FA1202A10502FA1302FA1302A20E02FA1402FA1402A291,
    0x02FA1502FA15009EBB02FA1602FA16004D5602FA1702FA17009EF902FA1802FA18009EFE02FA1902FA19009F05,
    0x02FA1A02FA1A009F0F02FA1B02FA1B009F1602FA1C02FA1C009F3B02FA1D02FA1D02A600FFFFFFFFFFFFFFFFFF]

end OperatorDaemon.Unicode
