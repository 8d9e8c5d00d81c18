/-!
# Characters in labels: the data

Ranges are given by the places where membership changes. A run is its first character, its last, and how all
of them join: with the next character, with the one before, or with both.
-/

namespace OperatorDaemon.Unicode

/-- The ranges of marks that take up no room. -/
def nonspacingRows : List Nat :=
  [0x00030000037000048300048A0005910005BE0005BF0005C00005C10005C30005C40005C60005C70005C8000610,
    0x00061B00064B0006600006700006710006D60006DD0006DF0006E50006E70006E90006EA0006EE000711000712,
    0x00073000074B0007A60007B10007EB0007F40007FD0007FE00081600081A00081B000824000825000828000829,
    0x00082E00085900085C0008970008A00008CA0008E20008E300090300093A00093B00093C00093D000941000949,
    0x00094D00094E0009510009580009620009640009810009820009BC0009BD0009C10009C50009CD0009CE0009E2,
    0x0009E40009FE0009FF000A01000A03000A3C000A3D000A41000A43000A47000A49000A4B000A4E000A51000A52,
    0x000A70000A72000A75000A76000A81000A83000ABC000ABD000AC1000AC6000AC7000AC9000ACD000ACE000AE2,
    0x000AE4000AFA000B00000B01000B02000B3C000B3D000B3F000B40000B41000B45000B4D000B4E000B55000B57,
    0x000B62000B64000B82000B83000BC0000BC1000BCD000BCE000C00000C01000C04000C05000C3C000C3D000C3E,
    0x000C41000C46000C49000C4A000C4E000C55000C57000C62000C64000C81000C82000CBC000CBD000CBF000CC0,
    0x000CC6000CC7000CCC000CCE000CE2000CE4000D00000D02000D3B000D3D000D41000D45000D4D000D4E000D62,
    0x000D64000D81000D82000DCA000DCB000DD2000DD5000DD6000DD7000E31000E32000E34000E3B000E47000E4F,
    0x000EB1000EB2000EB4000EBD000EC8000ECF000F18000F1A000F35000F36000F37000F38000F39000F3A000F71,
    0x000F7F000F80000F85000F86000F88000F8D000F98000F99000FBD000FC6000FC700102D001031001032001038,
    0x00103900103B00103D00103F00105800105A00105E00106100107100107500108200108300108500108700108D,
    0x00108E00109D00109E00135D0013600017120017150017320017340017520017540017720017740017B40017B6,
    0x0017B70017BE0017C60017C70017C90017D40017DD0017DE00180B00180E00180F0018100018850018870018A9,
    0x0018AA00192000192300192700192900193200193300193900193C001A17001A19001A1B001A1C001A56001A57,
    0x001A58001A5F001A60001A61001A62001A63001A65001A6D001A73001A7D001A7F001A80001AB0001ADE001AE0,
    0x001AEC001B00001B04001B34001B35001B36001B3B001B3C001B3D001B42001B43001B6B001B74001B80001B82,
    0x001BA2001BA6001BA8001BAA001BAB001BAE001BE6001BE7001BE8001BEA001BED001BEE001BEF001BF2001C2C,
    0x001C34001C36001C38001CD0001CD3001CD4001CE1001CE2001CE9001CED001CEE001CF4001CF5001CF8001CFA,
    0x001DC0001E000020D00020F1002CEF002CF2002D7F002D80002DE0002E0000302A00302E00309900309B00A66F,
    0x00A67300A67400A67E00A69E00A6A000A6F000A6F200A80200A80300A80600A80700A80B00A80C00A82500A827,
    0x00A82C00A82D00A8C400A8C600A8E000A8F200A8FF00A90000A92600A92E00A94700A95200A98000A98300A9B3,
    0x00A9B400A9B600A9BA00A9BC00A9BE00A9E500A9E600AA2900AA2F00AA3100AA3300AA3500AA3700AA4300AA44,
    0x00AA4C00AA4D00AA7C00AA7D00AAB000AAB100AAB200AAB500AAB700AAB900AABE00AAC000AAC100AAC200AAEC,
    0x00AAEE00AAF600AAF700ABE500ABE600ABE800ABE900ABED00ABEE00FB1E00FB1F00FE0000FE1000FE2000FE30,
    0x0101FD0101FE0102E00102E101037601037B010A01010A04010A05010A07010A0C010A10010A38010A3B010A3F,
    0x010A40010AE5010AE7010D24010D28010D69010D6E010EAB010EAD010EFA010F00010F46010F51010F82010F86,
    0x01100101100201103801104701107001107101107301107501107F0110820110B30110B70110B90110BB0110C2,
    0x0110C301110001110301112701112C01112D0111350111730111740111800111820111B60111BF0111C90111CD,
    0x0111CF0111D001122F01123201123401123501123601123801123E01123F0112410112420112DF0112E00112E3,
    0x0112EB01130001130201133B01133D01134001134101136601136D0113700113750113BB0113C10113CE0113CF,
    0x0113D00113D10113D20113D30113E10113E301143801144001144201144501144601144701145E01145F0114B3,
    0x0114B90114BA0114BB0114BF0114C10114C20114C40115B20115B60115BC0115BE0115BF0115C10115DC0115DE,
    0x01163301163B01163D01163E01163F0116410116AB0116AC0116AD0116AE0116B00116B60116B70116B801171D,
    0x01171E01171F01172001172201172601172701172C01182F01183801183901183B01193B01193D01193E01193F,
    0x0119430119440119D40119D80119DA0119DC0119E00119E1011A01011A0B011A33011A39011A3B011A3F011A47,
    0x011A48011A51011A57011A59011A5C011A8A011A97011A98011A9A011B60011B61011B62011B65011B66011B67,
    0x011C30011C37011C38011C3E011C3F011C40011C92011CA8011CAA011CB1011CB2011CB4011CB5011CB7011D31,
    0x011D37011D3A011D3B011D3C011D3E011D3F011D46011D47011D48011D90011D92011D95011D96011D97011D98,
    0x011EF3011EF5011F00011F02011F36011F3B011F40011F41011F42011F43011F5A011F5B013440013441013447,
    0x01345601611E01612A01612D016130016AF0016AF5016B30016B37016F4F016F50016F8F016F93016FE4016FE5,
    0x01BC9D01BC9F01CF0001CF2E01CF3001CF4701D16701D16A01D17B01D18301D18501D18C01D1AA01D1AE01D242,
    0x01D24501DA0001DA3701DA3B01DA6D01DA7501DA7601DA8401DA8501DA9B01DAA001DAA101DAB001E00001E007,
    0x01E00801E01901E01B01E02201E02301E02501E02601E02B01E08F01E09001E13001E13701E2AE01E2AF01E2EC,
    0x01E2F001E4EC01E4F001E5EE01E5F001E6E301E6E401E6E601E6E701E6EE01E6F001E6F501E6F601E8D001E8D7,
    0x01E94401E94B0E01000E01F0FFFFFFFFFFFFFFFFFFFFFFFFFFFFFFFFFFFFFFFFFFFFFFFFFFFFFFFFFFFFFFFFFF]

/-- The ranges of marks that take up room. -/
def spacingRows : List Nat :=
  [0x00090300090400093B00093C00093E00094100094900094D00094E0009500009820009840009BE0009C10009C7,
    0x0009C90009CB0009CD0009D70009D8000A03000A04000A3E000A41000A83000A84000ABE000AC1000AC9000ACA,
    0x000ACB000ACD000B02000B04000B3E000B3F000B40000B41000B47000B49000B4B000B4D000B57000B58000BBE,
    0x000BC0000BC1000BC3000BC6000BC9000BCA000BCD000BD7000BD8000C01000C04000C41000C45000C82000C84,
    0x000CBE000CBF000CC0000CC5000CC7000CC9000CCA000CCC000CD5000CD7000CF3000CF4000D02000D04000D3E,
    0x000D41000D46000D49000D4A000D4D000D57000D58000D82000D84000DCF000DD2000DD8000DE0000DF2000DF4,
    0x000F3E000F40000F7F000F8000102B00102D00103100103200103800103900103B00103D001056001058001062,
    0x00106500106700106E00108300108500108700108D00108F00109000109A00109D001715001716001734001735,
    0x0017B60017B70017BE0017C60017C70017C900192300192700192900192C001930001932001933001939001A19,
    0x001A1B001A55001A56001A57001A58001A61001A62001A63001A65001A6D001A73001B04001B05001B35001B36,
    0x001B3B001B3C001B3D001B42001B43001B45001B82001B83001BA1001BA2001BA6001BA8001BAA001BAB001BE7,
    0x001BE8001BEA001BED001BEE001BEF001BF2001BF4001C24001C2C001C34001C36001CE1001CE2001CF7001CF8,
    0x00302E00303000A82300A82500A82700A82800A88000A88200A8B400A8C400A95200A95400A98300A98400A9B4,
    0x00A9B600A9BA00A9BC00A9BE00A9C100AA2F00AA3100AA3300AA3500AA4D00AA4E00AA7B00AA7C00AA7D00AA7E,
    0x00AAEB00AAEC00AAEE00AAF000AAF500AAF600ABE300ABE500ABE600ABE800ABE900ABEB00ABEC00ABED011000,
    0x0110010110020110030110820110830110B00110B30110B70110B901112C01112D011145011147011182011183,
    0x0111B30111B60111BF0111C10111CE0111CF01122C01122F0112320112340112350112360112E00112E3011302,
    0x01130401133E01134001134101134501134701134901134B01134E0113570113580113620113640113B80113BB,
    0x0113C20113C30113C50113C60113C70113CB0113CC0113CE0113CF0113D0011435011438011440011442011445,
    0x0114460114B00114B30114B90114BA0114BB0114BF0114C10114C20115AF0115B20115B80115BC0115BE0115BF,
    0x01163001163301163B01163D01163E01163F0116AC0116AD0116AE0116B00116B60116B701171E01171F011720,
    0x01172201172601172701182C01182F01183801183901193001193601193701193901193D01193E011940011941,
    0x0119420119430119D10119D40119DC0119E00119E40119E5011A39011A3A011A57011A59011A97011A98011B61,
    0x011B62011B65011B66011B67011B68011C2F011C30011C3E011C3F011CA9011CAA011CB1011CB2011CB4011CB5,
    0x011D8A011D8F011D93011D95011D96011D97011EF5011EF7011F03011F04011F34011F36011F3E011F40011F41,
    0x011F4201612A01612D016F51016F88016FF0016FF201D16501D16701D16D01D173FFFFFFFFFFFFFFFFFFFFFFFF]

/-- The ranges of letters that are written from right to left. -/
def rightToLeftRows : List Nat :=
  [0x0005900005910005BE0005BF0005C00005C10005C30005C40005C60005C70005C800060000060800060900060B,
    0x00060C00060D00060E00061B00064B00066D0006700006710006D60006E50006E70006EE0006F00006FA000711,
    0x00071200073000074B0007A60007B10007EB0007F40007F60007FA0007FD0007FE00081600081A00081B000824,
    0x00082500082800082900082E00085900085C0008900008920008970008A00008CA00200F00201000FB1D00FB1E,
    0x00FB1F00FB2900FB2A00FBC300FBD300FD3E00FD5000FD9000FD9200FDC800FDF000FDFD00FE7000FEFF010800,
    0x01091F010920010A01010A04010A05010A07010A0C010A10010A38010A3B010A3F010A40010AE5010AE7010B39,
    0x010B40010D24010D28010D30010D3A010D40010D4A010D69010D6F010E60010E7F010EAB010EAD010ED0010ED9,
    0x010EFA010F00010F46010F51010F82010F8601100001E80001E8D001E8D701E94401E94B01EEF001EEF201F000]

/-- The ranges of characters that are neither letters nor digits nor marks. -/
def neutralRows : List Nat :=
  [0x00000000003000003A00004100005B00006100007B0000AA0000AB0000B20000B40000B50000B60000B90000BB,
    0x0000C00000D70000D80000F70000F80002B90002BB0002C20002D00002D20002E00002E50002EE0002EF000300,
    0x00037400037600037E00037F0003840003860003870003880003F60003F700058A00058B00058D000590000606,
    0x00060800060900060B00060C00060D00060E00061000066A00066B0006DE0006DF0006E90006EA0007F60007FA,
    0x0009F20009F40009FB0009FC000AF1000AF2000BF3000BFB000C78000C7F000E3F000E40000F3A000F3E001390,
    0x00139A00140000140100168000168100169B00169D0017DB0017DC0017F00017FA00180000180B00180E00180F,
    0x0019400019410019440019460019DE001A00001FBD001FBE001FBF001FC2001FCD001FD0001FDD001FE0001FED,
    0x001FF0001FFD001FFF00200000200E00201000207000207A00207F00208A00208F0020A00020D0002100002102,
    0x00210300210700210800210A00211400211500211600211900211E002124002125002126002127002128002129,
    0x00212A00212E00212F00213A00213C00214000214500214A00214E00215000216000218900218C002190002336,
    0x00237B00239500239600242A00244000244B0024600024880024EA0026AC0026AD002800002900002B74002B76,
    0x002C00002CE5002CEB002CF9002D00002E00002E5E002E80002E9A002E9B002EF4002F00002FD6002FF0003005,
    0x00300800302100303000303100303600303800303D00304000309B00309D0030A00030A10030FB0030FC0031C0,
    0x0031E60031EF0031F000321D00321F00325000326000327C00327F0032B10032C00032CC0032D000337700337B,
    0x0033DE0033E00033FF003400004DC0004E0000A49000A4C700A60D00A61000A67300A67400A67E00A68000A700,
    0x00A72200A78800A78900A82800A82C00A83800A83A00A87400A87800AB6A00AB6C00FB2900FB2A00FBC300FBD3,
    0x00FD3E00FD5000FD9000FD9200FDC800FDF000FDFD00FE0000FE1000FE1A00FE3000FE5300FE5400FE6700FE68,
    0x00FE6C00FEFF00FF0000FF0100FF1000FF1A00FF2100FF3B00FF4100FF5B00FF6600FFE000FFE700FFE800FFEF,
    0x00FFF001000001010101010201014001018D01019001019D0101A00101A101091F010920010B39010B40010D6E,
    0x010D6F010ED0010ED901105201106601166001166D011FD5011FF2016FE2016FE301BCA001BCA401CC0001CCD6,
    0x01CCFA01CCFD01CD0001CEB401CEBA01CED101CEE001CEF101D17301D17B01D1E901D1EB01D20001D24201D245,
    0x01D24601D30001D35701D6C101D6C201D6DB01D6DC01D6FB01D6FC01D71501D71601D73501D73601D74F01D750,
    0x01D76F01D77001D78901D78A01D7A901D7AA01D7C301D7C401E2FF01E30001EEF001EEF201F00001F02C01F030,
    0x01F09401F0A001F0AF01F0B101F0C001F0C101F0D001F0D101F0F601F10B01F11001F12F01F13001F16A01F170,
    0x01F1AD01F1AE01F26001F26601F30001F6D901F6DC01F6ED01F6F001F6FD01F70001F7DA01F7E001F7EC01F7F0,
    0x01F7F101F80001F80C01F81001F84801F85001F85A01F86001F88801F89001F8AE01F8B001F8BC01F8C001F8C2,
    0x01F8D001F8D901F90001FA5801FA6001FA6E01FA7001FA7D01FA8001FA8B01FA8E01FAC701FAC801FAC901FACD,
    0x01FADD01FADF01FAEB01FAEF01FAF901FB0001FB9301FB9401FBF001FBFA01FBFB01FFFE02000002FFFE030000,
    0x03FFFE04000004FFFE05000005FFFE06000006FFFE07000007FFFE08000008FFFE09000009FFFE0A00000AFFFE,
    0x0B00000BFFFE0C00000CFFFE0D00000DFFFE0E01000E01F00E10000EFFFE0F00000FFFFE10000010FFFE110000]

/-- The runs of characters that join with the next one (1), with the one before (2) or with both (3). -/
def joiningRows : List Nat :=
  [0x000620000620000003000622000625000002000626000626000003000627000627000002000628000628000003,
    0x00062900062900000200062A00062E00000300062F00063200000200063300063F000003000641000647000003,
    0x00064800064800000200064900064A00000300066E00066F000003000671000673000002000675000677000002,
    0x00067800068700000300068800069900000200069A0006BF0000030006C00006C00000020006C10006C2000003,
    0x0006C30006CB0000020006CC0006CC0000030006CD0006CD0000020006CE0006CE0000030006CF0006CF000002,
    0x0006D00006D10000030006D20006D30000020006D50006D50000020006EE0006EF0000020006FA0006FC000003,
    0x0006FF0006FF00000300071000071000000200071200071400000300071500071900000200071A00071D000003,
    0x00071E00071E00000200071F00072700000300072800072800000200072900072900000300072A00072A000002,
    0x00072B00072B00000300072C00072C00000200072D00072E00000300072F00072F00000200074D00074D000002,
    0x00074E00075800000300075900075B00000200075C00076A00000300076B00076C00000200076D000770000003,
    0x000771000771000002000772000772000003000773000774000002000775000777000003000778000779000002,
    0x00077A00077F0000030007CA0007EA000003000840000840000002000841000845000003000846000847000002,
    0x00084800084800000300084900084900000200084A000853000003000854000854000002000855000855000003,
    0x000856000858000002000860000860000003000862000865000003000867000867000002000868000868000003,
    0x00086900086A00000200087000088200000200088600088600000300088900088D00000300088E00088E000002,
    0x00088F00088F0000030008A00008A90000030008AA0008AC0000020008AE0008AE0000020008AF0008B0000003,
    0x0008B10008B20000020008B30008B80000030008B90008B90000020008BA0008C8000003001807001807000003,
    0x0018200018780000030018870018A80000030018AA0018AA00000300A84000A87100000300A87200A872000001,
    0x010AC0010AC4000003010AC5010AC5000002010AC7010AC7000002010AC9010ACA000002010ACD010ACD000001,
    0x010ACE010AD2000002010AD3010AD6000003010AD7010AD7000001010AD8010ADC000003010ADD010ADD000002,
    0x010ADE010AE0000003010AE1010AE1000002010AE4010AE4000002010AEB010AEE000003010AEF010AEF000002,
    0x010B80010B80000003010B81010B81000002010B82010B82000003010B83010B85000002010B86010B88000003,
    0x010B89010B89000002010B8A010B8B000003010B8C010B8C000002010B8D010B8D000003010B8E010B8F000002,
    0x010B90010B90000003010B91010B91000002010BA9010BAC000002010BAD010BAE000003010D00010D00000001,
    0x010D01010D21000003010D22010D22000002010D23010D23000003010EC2010EC2000002010EC3010EC4000003,
    0x010EC6010EC7000003010F30010F32000003010F33010F33000002010F34010F44000003010F51010F53000003,
    0x010F54010F54000002010F70010F73000003010F74010F75000002010F76010F81000003010FB0010FB0000003,
    0x010FB2010FB3000003010FB4010FB6000002010FB8010FB8000003010FB9010FBA000002010FBB010FBC000003,
    0x010FBD010FBD000002010FBE010FBF000003010FC1010FC1000003010FC2010FC3000002010FC4010FC4000003,
    0x010FC9010FC9000002010FCA010FCA000003010FCB010FCB00000101E90001E943000003FFFFFFFFFFFFFFFFFF]

end OperatorDaemon.Unicode
