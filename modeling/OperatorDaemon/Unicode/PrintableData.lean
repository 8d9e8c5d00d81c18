/-!
# Characters without a glyph of their own: the data

Ranges are given by the places where membership changes.
-/

namespace OperatorDaemon.Unicode

/-- The ranges of controls, formats, separators, private and unassigned characters. -/
def unprintableRows : List Nat :=
  [0x00000000002000007F0000A10000AD0000AE00037800037A00038000038400038B00038C00038D00038E0003A2,
    0x0003A300053000053100055700055900058B00058D0005900005910005C80005D00005EB0005EF0005F5000606,
    0x00061C00061D0006DD0006DE00070E00071000074B00074D0007B20007C00007FB0007FD00082E00083000083F,
    0x00084000085C00085E00085F00086000086B0008700008900008970008E20008E300098400098500098D00098F,
    0x0009910009930009A90009AA0009B10009B20009B30009B60009BA0009BC0009C50009C70009C90009CB0009CF,
    0x0009D70009D80009DC0009DE0009DF0009E40009E60009FF000A01000A04000A05000A0B000A0F000A11000A13,
    0x000A29000A2A000A31000A32000A34000A35000A37000A38000A3A000A3C000A3D000A3E000A43000A47000A49,
    0x000A4B000A4E000A51000A52000A59000A5D000A5E000A5F000A66000A77000A81000A84000A85000A8E000A8F,
    0x000A92000A93000AA9000AAA000AB1000AB2000AB4000AB5000ABA000ABC000AC6000AC7000ACA000ACB000ACE,
    0x000AD0000AD1000AE0000AE4000AE6000AF2000AF9000B00000B01000B04000B05000B0D000B0F000B11000B13,
    0x000B29000B2A000B31000B32000B34000B35000B3A000B3C000B45000B47000B49000B4B000B4E000B55000B58,
    0x000B5C000B5E000B5F000B64000B66000B78000B82000B84000B85000B8B000B8E000B91000B92000B96000B99,
    0x000B9B000B9C000B9D000B9E000BA0000BA3000BA5000BA8000BAB000BAE000BBA000BBE000BC3000BC6000BC9,
    0x000BCA000BCE000BD0000BD1000BD7000BD8000BE6000BFB000C00000C0D000C0E000C11000C12000C29000C2A,
    0x000C3A000C3C000C45000C46000C49000C4A000C4E000C55000C57000C58000C5B000C5C000C5E000C60000C64,
    0x000C66000C70000C77000C8D000C8E000C91000C92000CA9000CAA000CB4000CB5000CBA000CBC000CC5000CC6,
    0x000CC9000CCA000CCE000CD5000CD7000CDC000CDF000CE0000CE4000CE6000CF0000CF1000CF4000D00000D0D,
    0x000D0E000D11000D12000D45000D46000D49000D4A000D50000D54000D64000D66000D80000D81000D84000D85,
    0x000D97000D9A000DB2000DB3000DBC000DBD000DBE000DC0000DC7000DCA000DCB000DCF000DD5000DD6000DD7,
    0x000DD8000DE0000DE6000DF0000DF2000DF5000E01000E3B000E3F000E5C000E81000E83000E84000E85000E86,
    0x000E8B000E8C000EA4000EA5000EA6000EA7000EBE000EC0000EC5000EC6000EC7000EC8000ECF000ED0000EDA,
    0x000EDC000EE0000F00000F48000F49000F6D000F71000F98000F99000FBD000FBE000FCD000FCE000FDB001000,
    0x0010C60010C70010C80010CD0010CE0010D000124900124A00124E00125000125700125800125900125A00125E,
    0x00126000128900128A00128E0012900012B10012B20012B60012B80012BF0012C00012C10012C20012C60012C8,
    0x0012D70012D800131100131200131600131800135B00135D00137D00138000139A0013A00013F60013F80013FE,
    0x00140000168000168100169D0016A00016F900170000171600171F00173700174000175400176000176D00176E,
    0x0017710017720017740017800017DE0017E00017EA0017F00017FA00180000180E00180F00181A001820001879,
    0x0018800018AB0018B00018F600190000191F00192000192C00193000193C00194000194100194400196E001970,
    0x0019750019800019AC0019B00019CA0019D00019DB0019DE001A1C001A1E001A5F001A60001A7D001A7F001A8A,
    0x001A90001A9A001AA0001AAE001AB0001ADE001AE0001AEC001B00001B4D001B4E001BF4001BFC001C38001C3B,
    0x001C4A001C4D001C8B001C90001CBB001CBD001CC8001CD0001CFB001D00001F16001F18001F1E001F20001F46,
    0x001F48001F4E001F50001F58001F59001F5A001F5B001F5C001F5D001F5E001F5F001F7E001F80001FB5001FB6,
    0x001FC5001FC6001FD4001FD6001FDC001FDD001FF0001FF2001FF5001FF6001FFF00201000202800203000205F,
    0x00207000207200207400208F00209000209D0020A00020C20020D00020F100210000218C00219000242A002440,
    0x00244B002460002B74002B76002CF4002CF9002D26002D27002D28002D2D002D2E002D30002D68002D6F002D71,
    0x002D7F002D97002DA0002DA7002DA8002DAF002DB0002DB7002DB8002DBF002DC0002DC7002DC8002DCF002DD0,
    0x002DD7002DD8002DDF002DE0002E5E002E80002E9A002E9B002EF4002F00002FD6002FF0003000003001003040,
    0x00304100309700309900310000310500313000313100318F0031900031E60031EF00321F00322000A48D00A490,
    0x00A4C700A4D000A62C00A64000A6F800A70000A7DD00A7F100A82D00A83000A83A00A84000A87800A88000A8C6,
    0x00A8CE00A8DA00A8E000A95400A95F00A97D00A98000A9CE00A9CF00A9DA00A9DE00A9FF00AA0000AA3700AA40,
    0x00AA4E00AA5000AA5A00AA5C00AAC300AADB00AAF700AB0100AB0700AB0900AB0F00AB1100AB1700AB2000AB27,
    0x00AB2800AB2F00AB3000AB6C00AB7000ABEE00ABF000ABFA00AC0000D7A400D7B000D7C700D7CB00D7FC00F900,
    0x00FA6E00FA7000FADA00FB0000FB0700FB1300FB1800FB1D00FB3700FB3800FB3D00FB3E00FB3F00FB4000FB42,
    0x00FB4300FB4500FB4600FDD000FDF000FE1A00FE2000FE5300FE5400FE6700FE6800FE6C00FE7000FE7500FE76,
    0x00FEFD00FF0100FFBF00FFC200FFC800FFCA00FFD000FFD200FFD800FFDA00FFDD00FFE000FFE700FFE800FFEF,
    0x00FFFC00FFFE01000001000C01000D01002701002801003B01003C01003E01003F01004E01005001005E010080,
    0x0100FB01010001010301010701013401013701018F01019001019D0101A00101A10101D00101FE01028001029D,
    0x0102A00102D10102E00102FC01030001032401032D01034B01035001037B01038001039E01039F0103C40103C8,
    0x0103D601040001049E0104A00104AA0104B00104D40104D80104FC01050001052801053001056401056F01057B,
    0x01057C01058B01058C0105930105940105960105970105A20105A30105B20105B30105BA0105BB0105BD0105C0,
    0x0105F40106000107370107400107560107600107680107800107860107870107B10107B20107BB010800010806,
    0x01080801080901080A01083601083701083901083C01083D01083F01085601085701089F0108A70108B00108E0,
    0x0108F30108F40108F60108FB01091C01091F01093A01093F01095A0109800109B80109BC0109D00109D2010A04,
    0x010A05010A07010A0C010A14010A15010A18010A19010A36010A38010A3B010A3F010A49010A50010A59010A60,
    0x010AA0010AC0010AE7010AEB010AF7010B00010B36010B39010B56010B58010B73010B78010B92010B99010B9D,
    0x010BA9010BB0010C00010C49010C80010CB3010CC0010CF3010CFA010D28010D30010D3A010D40010D66010D69,
    0x010D86010D8E010D90010E60010E7F010E80010EAA010EAB010EAE010EB0010EB2010EC2010EC8010ED0010ED9,
    0x010EFA010F28010F30010F5A010F70010F8A010FB0010FCC010FE0010FF701100001104E01105201107601107F,
    0x0110BD0110BE0110C30110D00110E90110F00110FA0111000111350111360111480111500111770111800111E0,
    0x0111E10111F501120001121201121301124201128001128701128801128901128A01128E01128F01129E01129F,
    0x0112AA0112B00112EB0112F00112FA01130001130401130501130D01130F01131101131301132901132A011331,
    0x01133201133401133501133A01133B01134501134701134901134B01134E01135001135101135701135801135D,
    0x01136401136601136D01137001137501138001138A01138B01138C01138E01138F0113900113B60113B70113C1,
    0x0113C20113C30113C50113C60113C70113CB0113CC0113D60113D70113D90113E10113E301140001145C01145D,
    0x0114620114800114C80114D00114DA0115800115B60115B80115DE01160001164501165001165A01166001166D,
    0x0116800116BA0116C00116CA0116D00116E401170001171B01171D01172C01173001174701180001183C0118A0,
    0x0118F30118FF01190701190901190A01190C01191401191501191701191801193601193701193901193B011947,
    0x01195001195A0119A00119A80119AA0119D80119DA0119E5011A00011A48011A50011AA3011AB0011AF9011B00,
    0x011B0A011B60011B68011BC0011BE2011BF0011BFA011C00011C09011C0A011C37011C38011C46011C50011C6D,
    0x011C70011C90011C92011CA8011CA9011CB7011D00011D07011D08011D0A011D0B011D37011D3A011D3B011D3C,
    0x011D3E011D3F011D48011D50011D5A011D60011D66011D67011D69011D6A011D8F011D90011D92011D93011D99,
    0x011DA0011DAA011DB0011DDC011DE0011DEA011EE0011EF9011F00011F11011F12011F3B011F3E011F5B011FB0,
    0x011FB1011FC0011FF2011FFF01239A01240001246F012470012475012480012544012F90012FF3013000013430,
    0x0134400134560134600143FB01440001464701610001613A016800016A39016A40016A5F016A60016A6A016A6E,
    0x016ABF016AC0016ACA016AD0016AEE016AF0016AF6016B00016B46016B50016B5A016B5B016B62016B63016B78,
    0x016B7D016B90016D40016D7A016E40016E9B016EA0016EB9016EBB016ED4016F00016F4B016F4F016F88016F8F,
    0x016FA0016FE0016FE5016FF0016FF7017000018CD6018CFF018D1F018D80018DF301AFF001AFF401AFF501AFFC,
    0x01AFFD01AFFF01B00001B12301B13201B13301B15001B15301B15501B15601B16401B16801B17001B2FC01BC00,
    0x01BC6B01BC7001BC7D01BC8001BC8901BC9001BC9A01BC9C01BCA001CC0001CCFD01CD0001CEB401CEBA01CED1,
    0x01CEE001CEF101CF0001CF2E01CF3001CF4701CF5001CFC401D00001D0F601D10001D12701D12901D17301D17B,
    0x01D1EB01D20001D24601D2C001D2D401D2E001D2F401D30001D35701D36001D37901D40001D45501D45601D49D,
    0x01D49E01D4A001D4A201D4A301D4A501D4A701D4A901D4AD01D4AE01D4BA01D4BB01D4BC01D4BD01D4C401D4C5,
    0x01D50601D50701D50B01D50D01D51501D51601D51D01D51E01D53A01D53B01D53F01D54001D54501D54601D547,
    0x01D54A01D55101D55201D6A601D6A801D7CC01D7CE01DA8C01DA9B01DAA001DAA101DAB001DF0001DF1F01DF25,
    0x01DF2B01E00001E00701E00801E01901E01B01E02201E02301E02501E02601E02B01E03001E06E01E08F01E090,
    0x01E10001E12D01E13001E13E01E14001E14A01E14E01E15001E29001E2AF01E2C001E2FA01E2FF01E30001E4D0,
    0x01E4FA01E5D001E5FB01E5FF01E60001E6C001E6DF01E6E001E6F601E6FE01E70001E7E001E7E701E7E801E7EC,
    0x01E7ED01E7EF01E7F001E7FF01E80001E8C501E8C701E8D701E90001E94C01E95001E95A01E95E01E96001EC71,
    0x01ECB501ED0101ED3E01EE0001EE0401EE0501EE2001EE2101EE2301EE2401EE2501EE2701EE2801EE2901EE33,
    0x01EE3401EE3801EE3901EE3A01EE3B01EE3C01EE4201EE4301EE4701EE4801EE4901EE4A01EE4B01EE4C01EE4D,
    0x01EE5001EE5101EE5301EE5401EE5501EE5701EE5801EE5901EE5A01EE5B01EE5C01EE5D01EE5E01EE5F01EE60,
    0x01EE6101EE6301EE6401EE6501EE6701EE6B01EE6C01EE7301EE7401EE7801EE7901EE7D01EE7E01EE7F01EE80,
    0x01EE8A01EE8B01EE9C01EEA101EEA401EEA501EEAA01EEAB01EEBC01EEF001EEF201F00001F02C01F03001F094,
    0x01F0A001F0AF01F0B101F0C001F0C101F0D001F0D101F0F601F10001F1AE01F1E601F20301F21001F23C01F240,
    0x01F24901F25001F25201F26001F26601F30001F6D901F6DC01F6ED01F6F001F6FD01F70001F7DA01F7E001F7EC,
    0x01F7F001F7F101F80001F80C01F81001F84801F85001F85A01F86001F88801F89001F8AE01F8B001F8BC01F8C0,
    0x01F8C201F8D001F8D901F90001FA5801FA6001FA6E01FA7001FA7D01FA8001FA8B01FA8E01FAC701FAC801FAC9,
    0x01FACD01FADD01FADF01FAEB01FAEF01FAF901FB0001FB9301FB9401FBFB02000002A6E002A70002B81E02B820,
    0x02CEAE02CEB002EBE102EBF002EE5E02F80002FA1E03000003134B03135003347A0E01000E01F0110000FFFFFF]

/-- The ranges of the property `Grapheme_Extend`. -/
def graphemeExtendRows : List Nat :=
  [0x00030000037000048300048A0005910005BE0005BF0005C00005C10005C30005C40005C60005C70005C8000610,
    0x00061B00064B0006600006700006710006D60006DD0006DF0006E50006E70006E90006EA0006EE000711000712,
    0x00073000074B0007A60007B10007EB0007F40007FD0007FE00081600081A00081B000824000825000828000829,
    0x00082E00085900085C0008970008A00008CA0008E20008E300090300093A00093B00093C00093D000941000949,
    0x00094D00094E0009510009580009620009640009810009820009BC0009BD0009BE0009BF0009C10009C50009CD,
    0x0009CE0009D70009D80009E20009E40009FE0009FF000A01000A03000A3C000A3D000A41000A43000A47000A49,
    0x000A4B000A4E000A51000A52000A70000A72000A75000A76000A81000A83000ABC000ABD000AC1000AC6000AC7,
    0x000AC9000ACD000ACE000AE2000AE4000AFA000B00000B01000B02000B3C000B3D000B3E000B40000B41000B45,
    0x000B4D000B4E000B55000B58000B62000B64000B82000B83000BBE000BBF000BC0000BC1000BCD000BCE000BD7,
    0x000BD8000C00000C01000C04000C05000C3C000C3D000C3E000C41000C46000C49000C4A000C4E000C55000C57,
    0x000C62000C64000C81000C82000CBC000CBD000CBF000CC1000CC2000CC3000CC6000CC9000CCA000CCE000CD5,
    0x000CD7000CE2000CE4000D00000D02000D3B000D3D000D3E000D3F000D41000D45000D4D000D4E000D57000D58,
    0x000D62000D64000D81000D82000DCA000DCB000DCF000DD0000DD2000DD5000DD6000DD7000DDF000DE0000E31,
    0x000E32000E34000E3B000E47000E4F000EB1000EB2000EB4000EBD000EC8000ECF000F18000F1A000F35000F36,
    0x000F37000F38000F39000F3A000F71000F7F000F80000F85000F86000F88000F8D000F98000F99000FBD000FC6,
    0x000FC700102D00103100103200103800103900103B00103D00103F00105800105A00105E001061001071001075,
    0x00108200108300108500108700108D00108E00109D00109E00135D001360001712001716001732001735001752,
    0x0017540017720017740017B40017B60017B70017BE0017C60017C70017C90017D40017DD0017DE00180B00180E,
    0x00180F0018100018850018870018A90018AA00192000192300192700192900193200193300193900193C001A17,
    0x001A19001A1B001A1C001A56001A57001A58001A5F001A60001A61001A62001A63001A65001A6D001A73001A7D,
    0x001A7F001A80001AB0001ADE001AE0001AEC001B00001B04001B34001B3E001B42001B45001B6B001B74001B80,
    0x001B82001BA2001BA6001BA8001BAE001BE6001BE7001BE8001BEA001BED001BEE001BEF001BF4001C2C001C34,
    0x001C36001C38001CD0001CD3001CD4001CE1001CE2001CE9001CED001CEE001CF4001CF5001CF8001CFA001DC0,
    0x001E0000200C00200D0020D00020F1002CEF002CF2002D7F002D80002DE0002E0000302A00303000309900309B,
    0x00A66F00A67300A67400A67E00A69E00A6A000A6F000A6F200A80200A80300A80600A80700A80B00A80C00A825,
    0x00A82700A82C00A82D00A8C400A8C600A8E000A8F200A8FF00A90000A92600A92E00A94700A95200A95300A954,
    0x00A98000A98300A9B300A9B400A9B600A9BA00A9BC00A9BE00A9C000A9C100A9E500A9E600AA2900AA2F00AA31,
    0x00AA3300AA3500AA3700AA4300AA4400AA4C00AA4D00AA7C00AA7D00AAB000AAB100AAB200AAB500AAB700AAB9,
    0x00AABE00AAC000AAC100AAC200AAEC00AAEE00AAF600AAF700ABE500ABE600ABE800ABE900ABED00ABEE00FB1E,
    0x00FB1F00FE0000FE1000FE2000FE3000FF9E00FFA00101FD0101FE0102E00102E101037601037B010A01010A04,
    0x010A05010A07010A0C010A10010A38010A3B010A3F010A40010AE5010AE7010D24010D28010D69010D6E010EAB,
    0x010EAD010EFA010F00010F46010F51010F82010F86011001011002011038011047011070011071011073011075,
    0x01107F0110820110B30110B70110B90110BB0110C20110C301110001110301112701112C01112D011135011173,
    0x0111740111800111820111B60111BF0111C00111C10111C90111CD0111CF0111D001122F011232011234011238,
    0x01123E01123F0112410112420112DF0112E00112E30112EB01130001130201133B01133D01133E01133F011340,
    0x01134101134D01134E01135701135801136601136D0113700113750113B80113B90113BB0113C10113C20113C3,
    0x0113C50113C60113C70113CA0113CE0113D10113D20113D30113E10113E3011438011440011442011445011446,
    0x01144701145E01145F0114B00114B10114B30114B90114BA0114BB0114BD0114BE0114BF0114C10114C20114C4,
    0x0115AF0115B00115B20115B60115BC0115BE0115BF0115C10115DC0115DE01163301163B01163D01163E01163F,
    0x0116410116AB0116AC0116AD0116AE0116B00116B801171D01171E01171F01172001172201172601172701172C,
    0x01182F01183801183901183B01193001193101193B01193F0119430119440119D40119D80119DA0119DC0119E0,
    0x0119E1011A01011A0B011A33011A39011A3B011A3F011A47011A48011A51011A57011A59011A5C011A8A011A97,
    0x011A98011A9A011B60011B61011B62011B65011B66011B67011C30011C37011C38011C3E011C3F011C40011C92,
    0x011CA8011CAA011CB1011CB2011CB4011CB5011CB7011D31011D37011D3A011D3B011D3C011D3E011D3F011D46,
    0x011D47011D48011D90011D92011D95011D96011D97011D98011EF3011EF5011F00011F02011F36011F3B011F40,
    0x011F43011F5A011F5B01344001344101344701345601611E01612A01612D016130016AF0016AF5016B30016B37,
    0x016F4F016F50016F8F016F93016FE4016FE5016FF0016FF201BC9D01BC9F01CF0001CF2E01CF3001CF4701D165,
    0x01D16A01D16D01D17301D17B01D18301D18501D18C01D1AA01D1AE01D24201D24501DA0001DA3701DA3B01DA6D,
    0x01DA7501DA7601DA8401DA8501DA9B01DAA001DAA101DAB001E00001E00701E00801E01901E01B01E02201E023,
    0x01E02501E02601E02B01E08F01E09001E13001E13701E2AE01E2AF01E2EC01E2F001E4EC01E4F001E5EE01E5F0,
    0x01E6E301E6E401E6E601E6E701E6EE01E6F001E6F501E6F601E8D001E8D701E94401E94B0E00200E00800E0100,
    0x0E01F0FFFFFFFFFFFFFFFFFFFFFFFFFFFFFFFFFFFFFFFFFFFFFFFFFFFFFFFFFFFFFFFFFFFFFFFFFFFFFFFFFFFF]

end OperatorDaemon.Unicode
