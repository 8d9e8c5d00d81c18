/-!
# Case of characters: the data

Ranges are given by the places where membership changes. A run of capitals is its first character, its
last, the step between two, and the small letter of the first.
-/

namespace OperatorDaemon.Unicode

/-- The ranges of the property `Cased`. -/
def casedRows : List Nat :=
  [0x00004100005B00006100007B0000AA0000AB0000B50000B60000BA0000BB0000C00000D70000D80000F70000F8,
    0x0001BB0001BC0001C00001C40002940002960002B90002C00002C20002E00002E5000345000346000370000374,
    0x00037600037800037A00037E00037F00038000038600038700038800038B00038C00038D00038E0003A20003A3,
    0x0003F60003F700048200048A0005300005310005570005600005890010A00010C60010C70010C80010CD0010CE,
    0x0010D00010FB0010FC0011000013A00013F60013F80013FE001C80001C8B001C90001CBB001CBD001CC0001D00,
    0x001DC0001E00001F16001F18001F1E001F20001F46001F48001F4E001F50001F58001F59001F5A001F5B001F5C,
    0x001F5D001F5E001F5F001F7E001F80001FB5001FB6001FBD001FBE001FBF001FC2001FC5001FC6001FCD001FD0,
    0x001FD4001FD6001FDC001FE0001FED001FF2001FF5001FF6001FFD00207100207200207F00208000209000209D,
    0x00210200210300210700210800210A00211400211500211600211900211E002124002125002126002127002128,
    0x00212900212A00212E00212F00213500213900213A00213C00214000214500214A00214E00214F002160002180,
    0x0021830021850024B60024EA002C00002CE5002CEB002CEF002CF2002CF4002D00002D26002D27002D28002D2D,
    0x002D2E00A64000A66E00A68000A69E00A72200A78800A78B00A78F00A79000A7DD00A7F100A7F700A7F800A7FB,
    0x00AB3000AB5B00AB5C00AB6A00AB7000ABC000FB0000FB0700FB1300FB1800FF2100FF3B00FF4100FF5B010400,
    0x0104500104B00104D40104D80104FC01057001057B01057C01058B01058C0105930105940105960105970105A2,
    0x0105A30105B20105B30105BA0105BB0105BD0107800107810107830107860107870107B10107B20107BB010C80,
    0x010CB3010CC0010CF3010D50010D66010D70010D860118A00118E0016E40016E80016EA0016EB9016EBB016ED4,
    0x01D40001D45501D45601D49D01D49E01D4A001D4A201D4A301D4A501D4A701D4A901D4AD01D4AE01D4BA01D4BB,
    0x01D4BC01D4BD01D4C401D4C501D50601D50701D50B01D50D01D51501D51601D51D01D51E01D53A01D53B01D53F,
    0x01D54001D54501D54601D54701D54A01D55101D55201D6A601D6A801D6C101D6C201D6DB01D6DC01D6FB01D6FC,
    0x01D71501D71601D73501D73601D74F01D75001D76F01D77001D78901D78A01D7A901D7AA01D7C301D7C401D7CC,
    0x01DF0001DF0A01DF0B01DF1F01DF2501DF2B01E03001E06E01E90001E94401F13001F14A01F15001F16A01F170,
    0x01F18AFFFFFFFFFFFFFFFFFFFFFFFFFFFFFFFFFFFFFFFFFFFFFFFFFFFFFFFFFFFFFFFFFFFFFFFFFFFFFFFFFFFF]

/-- The ranges of the property `Case_Ignorable`. -/
def caseIgnorableRows : List Nat :=
  [0x00002700002800002E00002F00003A00003B00005E00005F0000600000610000A80000A90000AD0000AE0000AF,
    0x0000B00000B40000B50000B70000B90002B000037000037400037600037A00037B000384000386000387000388,
    0x00048300048A00055900055A00055F0005600005910005BE0005BF0005C00005C10005C30005C40005C60005C7,
    0x0005C80005F40005F500060000060600061000061B00061C00061D00064000064100064B000660000670000671,
    0x0006D60006DE0006DF0006E90006EA0006EE00070F00071000071100071200073000074B0007A60007B10007EB,
    0x0007F60007FA0007FB0007FD0007FE00081600082E00085900085C0008880008890008900008920008970008A0,
    0x0008C900090300093A00093B00093C00093D00094100094900094D00094E000951000958000962000964000971,
    0x0009720009810009820009BC0009BD0009C10009C50009CD0009CE0009E20009E40009FE0009FF000A01000A03,
    0x000A3C000A3D000A41000A43000A47000A49000A4B000A4E000A51000A52000A70000A72000A75000A76000A81,
    0x000A83000ABC000ABD000AC1000AC6000AC7000AC9000ACD000ACE000AE2000AE4000AFA000B00000B01000B02,
    0x000B3C000B3D000B3F000B40000B41000B45000B4D000B4E000B55000B57000B62000B64000B82000B83000BC0,
    0x000BC1000BCD000BCE000C00000C01000C04000C05000C3C000C3D000C3E000C41000C46000C49000C4A000C4E,
    0x000C55000C57000C62000C64000C81000C82000CBC000CBD000CBF000CC0000CC6000CC7000CCC000CCE000CE2,
    0x000CE4000D00000D02000D3B000D3D000D41000D45000D4D000D4E000D62000D64000D81000D82000DCA000DCB,
    0x000DD2000DD5000DD6000DD7000E31000E32000E34000E3B000E46000E4F000EB1000EB2000EB4000EBD000EC6,
    0x000EC7000EC8000ECF000F18000F1A000F35000F36000F37000F38000F39000F3A000F71000F7F000F80000F85,
    0x000F86000F88000F8D000F98000F99000FBD000FC6000FC700102D00103100103200103800103900103B00103D,
    0x00103F00105800105A00105E00106100107100107500108200108300108500108700108D00108E00109D00109E,
    0x0010FC0010FD00135D0013600017120017150017320017340017520017540017720017740017B40017B60017B7,
    0x0017BE0017C60017C70017C90017D40017D70017D80017DD0017DE00180B001810001843001844001885001887,
    0x0018A90018AA00192000192300192700192900193200193300193900193C001A17001A19001A1B001A1C001A56,
    0x001A57001A58001A5F001A60001A61001A62001A63001A65001A6D001A73001A7D001A7F001A80001AA7001AA8,
    0x001AB0001ADE001AE0001AEC001B00001B04001B34001B35001B36001B3B001B3C001B3D001B42001B43001B6B,
    0x001B74001B80001B82001BA2001BA6001BA8001BAA001BAB001BAE001BE6001BE7001BE8001BEA001BED001BEE,
    0x001BEF001BF2001C2C001C34001C36001C38001C78001C7E001CD0001CD3001CD4001CE1001CE2001CE9001CED,
    0x001CEE001CF4001CF5001CF8001CFA001D2C001D6B001D78001D79001D9B001E00001FBD001FBE001FBF001FC2,
    0x001FCD001FD0001FDD001FE0001FED001FF0001FFD001FFF00200B00201000201800201A002024002025002027,
    0x00202800202A00202F00206000206500206600207000207100207200207F00208000209000209D0020D00020F1,
    0x002C7C002C7E002CEF002CF2002D6F002D70002D7F002D80002DE0002E00002E2F002E3000300500300600302A,
    0x00302E00303100303600303B00303C00309900309F0030FC0030FF00A01500A01600A4F800A4FE00A60C00A60D,
    0x00A66F00A67300A67400A67E00A67F00A68000A69C00A6A000A6F000A6F200A70000A72200A77000A77100A788,
    0x00A78B00A7F100A7F500A7F800A7FA00A80200A80300A80600A80700A80B00A80C00A82500A82700A82C00A82D,
    0x00A8C400A8C600A8E000A8F200A8FF00A90000A92600A92E00A94700A95200A98000A98300A9B300A9B400A9B6,
    0x00A9BA00A9BC00A9BE00A9CF00A9D000A9E500A9E700AA2900AA2F00AA3100AA3300AA3500AA3700AA4300AA44,
    0x00AA4C00AA4D00AA7000AA7100AA7C00AA7D00AAB000AAB100AAB200AAB500AAB700AAB900AABE00AAC000AAC1,
    0x00AAC200AADD00AADE00AAEC00AAEE00AAF300AAF500AAF600AAF700AB5B00AB6000AB6900AB6C00ABE500ABE6,
    0x00ABE800ABE900ABED00ABEE00FB1E00FB1F00FBB200FBC300FE0000FE1000FE1300FE1400FE2000FE3000FE52,
    0x00FE5300FE5500FE5600FEFF00FF0000FF0700FF0800FF0E00FF0F00FF1A00FF1B00FF3E00FF3F00FF4000FF41,
    0x00FF7000FF7100FF9E00FFA000FFE300FFE400FFF900FFFC0101FD0101FE0102E00102E101037601037B010780,
    0x0107860107870107B10107B20107BB010A01010A04010A05010A07010A0C010A10010A38010A3B010A3F010A40,
    0x010AE5010AE7010D24010D28010D4E010D4F010D69010D6E010D6F010D70010EAB010EAD010EC5010EC6010EFA,
    0x010F00010F46010F51010F82010F8601100101100201103801104701107001107101107301107501107F011082,
    0x0110B30110B70110B90110BB0110BD0110BE0110C20110C30110CD0110CE01110001110301112701112C01112D,
    0x0111350111730111740111800111820111B60111BF0111C90111CD0111CF0111D001122F011232011234011235,
    0x01123601123801123E01123F0112410112420112DF0112E00112E30112EB01130001130201133B01133D011340,
    0x01134101136601136D0113700113750113BB0113C10113CE0113CF0113D00113D10113D20113D30113E10113E3,
    0x01143801144001144201144501144601144701145E01145F0114B30114B90114BA0114BB0114BF0114C10114C2,
    0x0114C40115B20115B60115BC0115BE0115BF0115C10115DC0115DE01163301163B01163D01163E01163F011641,
    0x0116AB0116AC0116AD0116AE0116B00116B60116B70116B801171D01171E01171F011720011722011726011727,
    0x01172C01182F01183801183901183B01193B01193D01193E01193F0119430119440119D40119D80119DA0119DC,
    0x0119E00119E1011A01011A0B011A33011A39011A3B011A3F011A47011A48011A51011A57011A59011A5C011A8A,
    0x011A97011A98011A9A011B60011B61011B62011B65011B66011B67011C30011C37011C38011C3E011C3F011C40,
    0x011C92011CA8011CAA011CB1011CB2011CB4011CB5011CB7011D31011D37011D3A011D3B011D3C011D3E011D3F,
    0x011D46011D47011D48011D90011D92011D95011D96011D97011D98011DD9011DDA011EF3011EF5011F00011F02,
    0x011F36011F3B011F40011F41011F42011F43011F5A011F5B01343001344101344701345601611E01612A01612D,
    0x016130016AF0016AF5016B30016B37016B40016B44016D40016D43016D6B016D6D016F4F016F50016F8F016FA0,
    0x016FE0016FE2016FE3016FE5016FF2016FF401AFF001AFF401AFF501AFFC01AFFD01AFFF01BC9D01BC9F01BCA0,
    0x01BCA401CF0001CF2E01CF3001CF4701D16701D16A01D17301D18301D18501D18C01D1AA01D1AE01D24201D245,
    0x01DA0001DA3701DA3B01DA6D01DA7501DA7601DA8401DA8501DA9B01DAA001DAA101DAB001E00001E00701E008,
    0x01E01901E01B01E02201E02301E02501E02601E02B01E03001E06E01E08F01E09001E13001E13E01E2AE01E2AF,
    0x01E2EC01E2F001E4EB01E4F001E5EE01E5F001E6E301E6E401E6E601E6E701E6EE01E6F001E6F501E6F601E6FF,
    0x01E70001E8D001E8D701E94401E94C01F3FB01F4000E00010E00020E00200E00800E01000E01F0FFFFFFFFFFFF]

/-- The runs of characters with a lower-case form of one character. -/
def lowercaseRows : List Nat :=
  [0x00004100005A0000010000610000C00000D60000010000E00000D80000DE0000010000F800010000012E000002,
    0x00010100013200013600000200013300013900014700000200013A00014A00017600000200014B000178000178,
    0x0000010000FF00017900017D00000200017A000181000181000001000253000182000184000002000183000186,
    0x00018600000100025400018700018700000100018800018900018A00000100025600018B00018B00000100018C,
    0x00018E00018E0000010001DD00018F00018F00000100025900019000019000000100025B000191000191000001,
    0x000192000193000193000001000260000194000194000001000263000196000196000001000269000197000197,
    0x00000100026800019800019800000100019900019C00019C00000100026F00019D00019D00000100027200019F,
    0x00019F0000010002750001A00001A40000020001A10001A60001A60000010002800001A70001A70000010001A8,
    0x0001A90001A90000010002830001AC0001AC0000010001AD0001AE0001AE0000010002880001AF0001AF000001,
    0x0001B00001B10001B200000100028A0001B30001B50000020001B40001B70001B70000010002920001B80001B8,
    0x0000010001B90001BC0001BC0000010001BD0001C40001C40000010001C60001C50001C50000010001C60001C7,
    0x0001C70000010001C90001C80001C80000010001C90001CA0001CA0000010001CC0001CB0001DB0000020001CC,
    0x0001DE0001EE0000020001DF0001F10001F10000010001F30001F20001F40000020001F30001F60001F6000001,
    0x0001950001F70001F70000010001BF0001F800021E0000020001F900022000022000000100019E000222000232,
    0x00000200022300023A00023A000001002C6500023B00023B00000100023C00023D00023D00000100019A00023E,
    0x00023E000001002C66000241000241000001000242000243000243000001000180000244000244000001000289,
    0x00024500024500000100028C00024600024E000002000247000370000372000002000371000376000376000001,
    0x00037700037F00037F0000010003F30003860003860000010003AC00038800038A0000010003AD00038C00038C,
    0x0000010003CC00038E00038F0000010003CD0003910003A10000010003B10003A30003AB0000010003C30003CF,
    0x0003CF0000010003D70003D80003EE0000020003D90003F40003F40000010003B80003F70003F70000010003F8,
    0x0003F90003F90000010003F20003FA0003FA0000010003FB0003FD0003FF00000100037B00040000040F000001,
    0x00045000041000042F00000100043000046000048000000200046100048A0004BE00000200048B0004C00004C0,
    0x0000010004CF0004C10004CD0000020004C20004D000052E0000020004D10005310005560000010005610010A0,
    0x0010C5000001002D000010C70010C7000001002D270010CD0010CD000001002D2D0013A00013EF00000100AB70,
    0x0013F00013F50000010013F8001C89001C89000001001C8A001C90001CBA0000010010D0001CBD001CBF000001,
    0x0010FD001E00001E94000002001E01001E9E001E9E0000010000DF001EA0001EFE000002001EA1001F08001F0F,
    0x000001001F00001F18001F1D000001001F10001F28001F2F000001001F20001F38001F3F000001001F30001F48,
    0x001F4D000001001F40001F59001F5F000002001F51001F68001F6F000001001F60001F88001F8F000001001F80,
    0x001F98001F9F000001001F90001FA8001FAF000001001FA0001FB8001FB9000001001FB0001FBA001FBB000001,
    0x001F70001FBC001FBC000001001FB3001FC8001FCB000001001F72001FCC001FCC000001001FC3001FD8001FD9,
    0x000001001FD0001FDA001FDB000001001F76001FE8001FE9000001001FE0001FEA001FEB000001001F7A001FEC,
    0x001FEC000001001FE5001FF8001FF9000001001F78001FFA001FFB000001001F7C001FFC001FFC000001001FF3,
    0x0021260021260000010003C900212A00212A00000100006B00212B00212B0000010000E5002132002132000001,
    0x00214E00216000216F0000010021700021830021830000010021840024B60024CF0000010024D0002C00002C2F,
    0x000001002C30002C60002C60000001002C61002C62002C6200000100026B002C63002C63000001001D7D002C64,
    0x002C6400000100027D002C67002C6B000002002C68002C6D002C6D000001000251002C6E002C6E000001000271,
    0x002C6F002C6F000001000250002C70002C70000001000252002C72002C72000001002C73002C75002C75000001,
    0x002C76002C7E002C7F00000100023F002C80002CE2000002002C81002CEB002CED000002002CEC002CF2002CF2,
    0x000001002CF300A64000A66C00000200A64100A68000A69A00000200A68100A72200A72E00000200A72300A732,
    0x00A76E00000200A73300A77900A77B00000200A77A00A77D00A77D000001001D7900A77E00A78600000200A77F,
    0x00A78B00A78B00000100A78C00A78D00A78D00000100026500A79000A79200000200A79100A79600A7A8000002,
    0x00A79700A7AA00A7AA00000100026600A7AB00A7AB00000100025C00A7AC00A7AC00000100026100A7AD00A7AD,
    0x00000100026C00A7AE00A7AE00000100026A00A7B000A7B000000100029E00A7B100A7B100000100028700A7B2,
    0x00A7B200000100029D00A7B300A7B300000100AB5300A7B400A7C200000200A7B500A7C400A7C400000100A794,
    0x00A7C500A7C500000100028200A7C600A7C6000001001D8E00A7C700A7C900000200A7C800A7CB00A7CB000001,
    0x00026400A7CC00A7DA00000200A7CD00A7DC00A7DC00000100019B00A7F500A7F500000100A7F600FF2100FF3A,
    0x00000100FF410104000104270000010104280104B00104D30000010104D8010570010594000002010597010571,
    0x01057900000201059801057D0105890000020105A401058D0105910000020105B40105950105950000010105BC,
    0x010C80010CB2000001010CC0010D50010D65000001010D700118A00118BF0000010118C0016E40016E5F000001,
    0x016E60016EA0016EB8000001016EBB01E90001E92100000101E922FFFFFFFFFFFFFFFFFFFFFFFFFFFFFFFFFFFF]

end OperatorDaemon.Unicode
