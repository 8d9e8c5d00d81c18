/-!
# Combining classes: the data

A run is its first character, its last, and the combining class of all of them; a character outside
all runs has class zero.
-/

namespace OperatorDaemon.Unicode

/-- The runs of characters of one class that is not zero. -/
def combiningRows : List Nat :=
  [0x0003000003140000E60003150003150000E80003160003190000DC00031A00031A0000E800031B00031B0000D8,
    0x00031C0003200000DC0003210003220000CA0003230003260000DC0003270003280000CA0003290003330000DC,
    0x00033400033800000100033900033C0000DC00033D0003440000E60003450003450000F00003460003460000E6,
    0x0003470003490000DC00034A00034C0000E600034D00034E0000DC0003500003520000E60003530003560000DC,
    0x0003570003570000E60003580003580000E800035900035A0000DC00035B00035B0000E600035C00035C0000E9,
    0x00035D00035E0000EA00035F00035F0000E90003600003610000EA0003620003620000E900036300036F0000E6,
    0x0004830004870000E60005910005910000DC0005920005950000E60005960005960000DC0005970005990000E6,
    0x00059A00059A0000DE00059B00059B0000DC00059C0005A10000E60005A20005A70000DC0005A80005A90000E6,
    0x0005AA0005AA0000DC0005AB0005AC0000E60005AD0005AD0000DE0005AE0005AE0000E40005AF0005AF0000E6,
    0x0005B00005B000000A0005B10005B100000B0005B20005B200000C0005B30005B300000D0005B40005B400000E,
    0x0005B50005B500000F0005B60005B60000100005B70005B70000110005B80005B80000120005B90005BA000013,
    0x0005BB0005BB0000140005BC0005BC0000150005BD0005BD0000160005BF0005BF0000170005C10005C1000018,
    0x0005C20005C20000190005C40005C40000E60005C50005C50000DC0005C70005C70000120006100006170000E6,
    0x00061800061800001E00061900061900001F00061A00061A00002000064B00064B00001B00064C00064C00001C,
    0x00064D00064D00001D00064E00064E00001E00064F00064F00001F000650000650000020000651000651000021,
    0x0006520006520000220006530006540000E60006550006560000DC00065700065B0000E600065C00065C0000DC,
    0x00065D00065E0000E600065F00065F0000DC0006700006700000230006D60006DC0000E60006DF0006E20000E6,
    0x0006E30006E30000DC0006E40006E40000E60006E70006E80000E60006EA0006EA0000DC0006EB0006EC0000E6,
    0x0006ED0006ED0000DC0007110007110000240007300007300000E60007310007310000DC0007320007330000E6,
    0x0007340007340000DC0007350007360000E60007370007390000DC00073A00073A0000E600073B00073C0000DC,
    0x00073D00073D0000E600073E00073E0000DC00073F0007410000E60007420007420000DC0007430007430000E6,
    0x0007440007440000DC0007450007450000E60007460007460000DC0007470007470000E60007480007480000DC,
    0x00074900074A0000E60007EB0007F10000E60007F20007F20000DC0007F30007F30000E60007FD0007FD0000DC,
    0x0008160008190000E600081B0008230000E60008250008270000E600082900082D0000E600085900085B0000DC,
    0x0008970008980000E600089900089B0000DC00089C00089F0000E60008CA0008CE0000E60008CF0008D30000DC,
    0x0008D40008E10000E60008E30008E30000DC0008E40008E50000E60008E60008E60000DC0008E70008E80000E6,
    0x0008E90008E90000DC0008EA0008EC0000E60008ED0008EF0000DC0008F00008F000001B0008F10008F100001C,
    0x0008F20008F200001D0008F30008F50000E60008F60008F60000DC0008F70008F80000E60008F90008FA0000DC,
    0x0008FB0008FF0000E600093C00093C00000700094D00094D0000090009510009510000E60009520009520000DC,
    0x0009530009540000E60009BC0009BC0000070009CD0009CD0000090009FE0009FE0000E6000A3C000A3C000007,
    0x000A4D000A4D000009000ABC000ABC000007000ACD000ACD000009000B3C000B3C000007000B4D000B4D000009,
    0x000BCD000BCD000009000C3C000C3C000007000C4D000C4D000009000C55000C55000054000C56000C5600005B,
    0x000CBC000CBC000007000CCD000CCD000009000D3B000D3C000009000D4D000D4D000009000DCA000DCA000009,
    0x000E38000E39000067000E3A000E3A000009000E48000E4B00006B000EB8000EB9000076000EBA000EBA000009,
    0x000EC8000ECB00007A000F18000F190000DC000F35000F350000DC000F37000F370000DC000F39000F390000D8,
    0x000F71000F71000081000F72000F72000082000F74000F74000084000F7A000F7D000082000F80000F80000082,
    0x000F82000F830000E6000F84000F84000009000F86000F870000E6000FC6000FC60000DC001037001037000007,
    0x00103900103A00000900108D00108D0000DC00135D00135F0000E6001714001715000009001734001734000009,
    0x0017D20017D20000090017DD0017DD0000E60018A90018A90000E40019390019390000DE00193A00193A0000E6,
    0x00193B00193B0000DC001A17001A170000E6001A18001A180000DC001A60001A60000009001A75001A7C0000E6,
    0x001A7F001A7F0000DC001AB0001AB40000E6001AB5001ABA0000DC001ABB001ABC0000E6001ABD001ABD0000DC,
    0x001ABF001AC00000DC001AC1001AC20000E6001AC3001AC40000DC001AC5001AC90000E6001ACA001ACA0000DC,
    0x001ACB001ADC0000E6001ADD001ADD0000DC001AE0001AE50000E6001AE6001AE60000DC001AE7001AEA0000E6,
    0x001AEB001AEB0000EA001B34001B34000007001B44001B44000009001B6B001B6B0000E6001B6C001B6C0000DC,
    0x001B6D001B730000E6001BAA001BAB000009001BE6001BE6000007001BF2001BF3000009001C37001C37000007,
    0x001CD0001CD20000E6001CD4001CD4000001001CD5001CD90000DC001CDA001CDB0000E6001CDC001CDF0000DC,
    0x001CE0001CE00000E6001CE2001CE8000001001CED001CED0000DC001CF4001CF40000E6001CF8001CF90000E6,
    0x001DC0001DC10000E6001DC2001DC20000DC001DC3001DC90000E6001DCA001DCA0000DC001DCB001DCC0000E6,
    0x001DCD001DCD0000EA001DCE001DCE0000D6001DCF001DCF0000DC001DD0001DD00000CA001DD1001DF50000E6,
    0x001DF6001DF60000E8001DF7001DF80000E4001DF9001DF90000DC001DFA001DFA0000DA001DFB001DFB0000E6,
    0x001DFC001DFC0000E9001DFD001DFD0000DC001DFE001DFE0000E6001DFF001DFF0000DC0020D00020D10000E6,
    0x0020D20020D30000010020D40020D70000E60020D80020DA0000010020DB0020DC0000E60020E10020E10000E6,
    0x0020E50020E60000010020E70020E70000E60020E80020E80000DC0020E90020E90000E60020EA0020EB000001,
    0x0020EC0020EF0000DC0020F00020F00000E6002CEF002CF10000E6002D7F002D7F000009002DE0002DFF0000E6,
    0x00302A00302A0000DA00302B00302B0000E400302C00302C0000E800302D00302D0000DE00302E00302F0000E0,
    0x00309900309A00000800A66F00A66F0000E600A67400A67D0000E600A69E00A69F0000E600A6F000A6F10000E6,
    0x00A80600A80600000900A82C00A82C00000900A8C400A8C400000900A8E000A8F10000E600A92B00A92D0000DC,
    0x00A95300A95300000900A9B300A9B300000700A9C000A9C000000900AAB000AAB00000E600AAB200AAB30000E6,
    0x00AAB400AAB40000DC00AAB700AAB80000E600AABE00AABF0000E600AAC100AAC10000E600AAF600AAF6000009,
    0x00ABED00ABED00000900FB1E00FB1E00001A00FE2000FE260000E600FE2700FE2D0000DC00FE2E00FE2F0000E6,
    0x0101FD0101FD0000DC0102E00102E00000DC01037601037A0000E6010A0D010A0D0000DC010A0F010A0F0000E6,
    0x010A38010A380000E6010A39010A39000001010A3A010A3A0000DC010A3F010A3F000009010AE5010AE50000E6,
    0x010AE6010AE60000DC010D24010D270000E6010D69010D6D0000E6010EAB010EAC0000E6010EFA010EFB0000DC,
    0x010EFD010EFF0000DC010F46010F470000DC010F48010F4A0000E6010F4B010F4B0000DC010F4C010F4C0000E6,
    0x010F4D010F500000DC010F82010F820000E6010F83010F830000DC010F84010F840000E6010F85010F850000DC,
    0x01104601104600000901107001107000000901107F01107F0000090110B90110B90000090110BA0110BA000007,
    0x0111000111020000E60111330111340000090111730111730000070111C00111C00000090111CA0111CA000007,
    0x0112350112350000090112360112360000070112E90112E90000070112EA0112EA00000901133B01133C000007,
    0x01134D01134D00000901136601136C0000E60113700113740000E60113CE0113D0000009011442011442000009,
    0x01144601144600000701145E01145E0000E60114C20114C20000090114C30114C30000070115BF0115BF000009,
    0x0115C00115C000000701163F01163F0000090116B60116B60000090116B70116B700000701172B01172B000009,
    0x01183901183900000901183A01183A00000701193D01193E0000090119430119430000070119E00119E0000009,
    0x011A34011A34000009011A47011A47000009011A99011A99000009011C3F011C3F000009011D42011D42000007,
    0x011D44011D45000009011D97011D97000009011F41011F4200000901612F01612F000009016AF0016AF4000001,
    0x016B30016B360000E6016FF0016FF100000601BC9E01BC9E00000101D16501D1660000D801D16701D169000001,
    0x01D16D01D16D0000E201D16E01D1720000D801D17B01D1820000DC01D18501D1890000E601D18A01D18B0000DC,
    0x01D1AA01D1AD0000E601D24201D2440000E601E00001E0060000E601E00801E0180000E601E01B01E0210000E6,
    0x01E02301E0240000E601E02601E02A0000E601E08F01E08F0000E601E13001E1360000E601E2AE01E2AE0000E6,
    0x01E2EC01E2EF0000E601E4EC01E4ED0000E801E4EE01E4EE0000DC01E4EF01E4EF0000E601E5EE01E5EE0000E6,
    0x01E5EF01E5EF0000DC01E6E301E6E30000E601E6E601E6E60000E601E6EE01E6EF0000E601E6F501E6F50000E6,
    0x01E8D001E8D60000DC01E94401E9490000E601E94A01E94A000007FFFFFFFFFFFFFFFFFFFFFFFFFFFFFFFFFFFF]

end OperatorDaemon.Unicode
