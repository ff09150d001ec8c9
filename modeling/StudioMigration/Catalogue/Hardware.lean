import StudioMigration.Catalogue.Basic

/-!
# Hardware

Hardware modules that are no longer supported, by reason.
-/

namespace StudioMigration.Catalogue

def gone (family : String) : String := family ++ " - No longer supported with AS 6.x"

/-- Module types that are no longer supported, under the reason they share. -/
def unsupportedTypes : List (String × List String) :=
  [(gone "2003/2005/EC20",
    "3AI/350.6/375.6/775.6/780.6/961.6 3AM05/0.6/1.6/5.6 3A/M374.6/O350.6/O360.60-1/O775.6/T350.6/T450.6/T652.6/T660.6
     3BM150.9 3BP15/0.4/1.4/2.4/5.4 3CP/260.60-1/320.60-1 3CP340.60-/1/2 3CP360.60-/1/2 3CP38/0.60-1/2.60-1
     3DI/175.6/450.60-9/475.6/476.6/477.6/486.6/575.6/695.6/875.6 3DM4/55.60-2/76.6/86.6
     3DO/479.6/480.6/486.6/487.6/650.6/690.6/750.6/760.6 3EX/282.6/350.6 3EX450./26-1/66-1/66-2/71-1/72-1/76-1/77-1
     3IF/050.6/060.6/260.60-1 3IF6/13.9/21.9/22.9/48.95/61.9/71.9/72.9/81.86/81.95/81.96/86.9
     3IF7/22.9/61.9/62.9/62.9-1/66.9/71.9/72.9/79.9 3IF78/1.9/2.9/2.9-1/6.9/6.9-1/7.9/7.9-1/9.9/9.9-1/9.9-11
     3IF79/1.9/2.9/7.9/7.9-1 3I/F7E3.9/P161.60-1 3N/C150.6/C352.6/W150.60-1 3PS/465.9/477.9/692.9/694.9/792.9/794.9
     3UM161.6 7AF10/1.7/4.7 7AI/261.7/294.7/351.70/354.70/774.70/984.70
     7A/M351.70/O352.70/T324.70/T351.7/T352.70/T664.70 7C/I410.70-1/M211.7/M411.70-1
     7CP/430.60-1/470.60-1/474.60-1/476.60-1/570.60-1/770.60-1/774.60-1
     7DI/135.70/138.70/140.70/435.7/439.7/439.72/645.7 7DM4/35.7/38.72/65.7 7DO/135.70/138.70/139.70/164.7/435.7
     7DO72/0.7/1.7/2.7/3.7 7EC02/0.60-2/0.61-2/1.60-1/1.61-2 7EX/270.50-1/290.50-1/470.50-1/481.50-1/484.50-1/770.50-1
     7IF3/11.7/21.7/61.70-1/71.70-1 7ME0/10.9/20.9/50.72-1 7MM424.70-1 MM432.70-1 7NC161.7"),
   (gone "PANELWARE",
    "4B1270.00-/390/490 4C1000.0/1-010/1-510/2-510 4C1300.0/1-510/2-510 4D10/22.00-090/42.00-090/44.00-090/84.00-090
     4D116/4.00-090/4.00-590/5.00-490/6.00-490/7.00-490 4D202/2.00-090/4.00-090"),
   (gone "PP15/21/35/41/45/65",
    "4EX101.0/0/1 4IF370.7 4P/0420.00-490/3040.00-490 4PP015.0420-/01/36 4PP015.C420-/01/36 4PP015.E420-/01/101/36
     4PP035.0300-/01/36 4PP035.E300-/01/136/36 4PP045.0571-/042/062/L42 4PP045.IF/10-1/23-1/24-1/33-1
     4PP065.0351-/P74/X74 4PP065.0571-/P74/P74F/X74/X74F 4PP065./1043-K01/IF10-1/IF23-1/IF24-1/IF33-1
     4PW035.E300-0/1/2"),
   (gone "MP40/50/100/200",
    "4MP/181.0843-03/251.0571-12 4MP281.0/571-12/843-13 5MP040.0381-0/1/2 5MP050.0653-0/1/2/3/4"),
   (gone "PP200/300/400/500",
    "4PP320./0571-01/0571-35/1043-31/1505-31 4PP351.0571-/01/35 4PP3/52.0571-35/81.1043-31
     4PP420.0571-/45/65/75/85/A5/B5 4PP420./0573-75/1043-75/1043-B5/1505-75/1505-B5 4PP451.0571-/45/65/75/85/B5
     4PP451.1043-/75/B5 4PP452.0571-/45/65/75/B5 4PP452.1043-75 4PP480.1/043-75/505-75/505-B5 4PP481.1043-/75/B5
     4PP48/1.1505-75/2.1043-75 5PP320.0573-3/9/B 5PP320.1/043-39/214-39/505-39/505-3B
     5PP520.0573-/00/01/B00/B01/B10/B11 5PP520.0702-/00/B00/B10 5PP520.1043-/00/B00/B10/B50 5PP520.1214-00
     5PP520.1505-/00/B00/B10/B50/B55/B60/B65
     5PP5/51.0573-00/52.0573-00/80.1043-00/80.1505-00/81.1043-00/81.1505-00/82.1043-00 5PP5CP.US15-0/0/1/2
     5PP5IF./CETH-00/CHDA-00/FCAN-00/FETH-00/FPLM-00/FX2X-00/FXCM-00 5PP5IO.G/MAC-00/NAC-00"),
   (gone "C30/50/70/80",
    "4PPC70.0573-2/0B/0W/1B/1W/2B/2W/3B/3W 4PPC70.057L-2/0B/0W/1B/1W/2B/2W/3B/3W 4PPC70.0702-2/0B/0W/1B/1W/2B/2W/3B/3W
     4PPC70.070M-2/0B/0W/1B/1W/2B/2W/3B/3W 4PPC70.101G-2/0B/0W/1B/1W/2B/2W/3B/3W
     4PPC70.101N-2/0B/0W/1B/1W/2B/2W/3B/3W"),
   (gone "Keypad modules", "4XP0000.00-K38"),
   (gone "APC510/620/810/820",
    "5AC600./485I-00/CANI-00/HCFS-00/SDL0-00/SRAM-00/UPSI-00 5AC800.CON/1-00/2-00 5AC800.EXT/1-00/2-00/2-01
     5AC800.EXT3-0/0/1/2/3/4/5 5AC801.SDL0-00 5AC803.B/C01-00/X01-00/X01-01/X02-00
     5PC800.B945-/00/01/02/03/04/05/10/11/12/13/14 5PC800./BM45-00/BM45-01/CCAX-00
     5PC810.BX0/1-00/1-01/2-00/2-01/3-00/5-00/5-01/5-02 5PC810.SX0/1-00/2-00/3-00/5-00
     5PC820./1505-00/1906-00/SX01-00/SX01-01 5PC51/0.SX01-00/1.SX01-00 5PC600.E855-0/0/1/2/3/4/5
     5PC600.E8xx-00./1/2/3/4 5PC600.SE00-0/0/1/2 5PC600.S/F03-00/X01-00/X02-00/X02-01/X05-00/X05-01
     5PC600.X855-0/0/1/2/3/4/5 5PC600.X/8xx-xx/945-00"),
   (gone "APC/PPC910 TS77",
    "5PC900.TS77-/00/01/02/03/04/05/06/07/08/09/10 5PC901.TS77-/00/01/02/03/04/05/06/07/08/09/10 5ACPCC.MPL0-00"),
   (gone "AP800/920/950/980",
    "5AP8/20.1505-00/80.1505-00 5AP920.1/043-01/214-01/505-01/706-01/906-01
     5AP9/20.2138-01/51.1043-01/51.1505-01/52.1043-01/80.1043-01/80.1505-01/81.1043-01/81.1505-01/82.1043-01
     5AP923.1/215-I00/505-I00"),
   (gone "AP9*D*",
    "5AP92D.1505-0/0/1 5AP92D.1906-0/0/1 5AP93D.1/56B-K06/85B-00/85B-01/85B-B60 5AP93D.215C-0/0/1
     5AP93D.240C-/00/01/B60 5AP99D.156B-B60 5AP99D.185B-/00/01/B60/K02 5AP99D.215/C-00/C-01/C-B60/I-00/I-01
     5AP99D.240C-0/0/1 5DLSD/3.1003-00/L.1002-00"),
   (gone "APC2100/PPC2100",
    "5APC2100.BY/01-000/11-000/22-000/34-000/44-000/48-000 5PPC2100.BY01-00/0/1/2
     5PPC2100.BY/11-000/11-001/11-002/22-000/22-001/22-002/34-000/34-001/34-002/44-000/44-001/44-002/48-000/48-002"),
   (gone "LS050", "5LS050./61-1/66-1/66-2/71-1/72-1/76-1/77-1"),
   (gone "PPC300/700/800",
    "5PC310.L800-0/0/1 5PC720.1/043-00/043-01/214-00/214-01/505-00/505-01/505-02/706-00/906-00
     5PC78/1.1043-00/1.1505-00/2.1043-00"),
   (gone "MP7x00", "5MP71/20.034F-000/21.034F-000/40.070N-000/50.101E-000/51.101E-000"),
   (gone "APx000", "5DLSD3.100/0-00/1-00 5ACC/KPS1.215C-000/LI01.SDL3-000"),
   (gone "APC/PPC910", "5AC901.LSD3-00"),
   (gone "7CX/XX",
    "7CX4/04.50-1/08.50-1/36.50-1 7XV116.50-21 7XX4/08.50-1/10.50-1/12.50-1/15.50-K02/26.50-1/32.50-1/36.50-1"),
   (gone "CIS", "80CIS.PS0-/2/5"),
   (gone "ACOPOS P3" ++ " - Replace with: 8EI8X8HWT10.XXXX-1 or 8EIxxxHxT1x.xxxx-1", "8EI8X8HWT10.0500-1"),
   (gone "ACOPOS", "8AC110.60-/2/3 8AC1/12.60-1/22.60-2 8BVIxxxxxxxS.000-1"),
   (gone "ACOPOSinverter", "8I/44xxxxxxx.xxx-1/64xxxxxxx.00x-1/84xxxxxxx.01P-1"),
   (gone "8LS motors",
    "8LSA25.E8060D/000-0/200-0 8LSA25.E9060D/000-0/200-0 8LSA25.R0060D/000-0/200-0
     8LSA35.EA0/30D000-0/30D200-0/60D000-0/60D200-0 8LSA35.EB0/30D000-0/30D200-0/60D000-0/60D200-0
     8LSA44.EA0/30D000-0/30D200-0/60D000-0/60D200-0 8LSA44.EB0/30D000-0/30D200-0/60D000-0/60D200-0
     8LSA55.EA030D/000-1/200-1 8LSA55.EB030D/000-1/200-1 8LSA65.EA030D/000-1/200-1 8LSA65.EB030D/000-1/200-1"),
   (gone "X20 modules",
    "X20A/I2632-1/O2632-1 X20BB/22/27/32/37/42/47 X20BC0087-10 X20cCP/1301/1382-RT/1584/1586/3584/3586 X20CM1201
     X20CP02/01/91/92 X20CP13/01/81/81-RT/82/82-RT X20CP148/3/3-1/4/4-1/5/5-1/6 X20CP158/3/4/5/6 X20CP348/4/4-1/5/5-1/6
     X20CP358/3/4/5/6 X20/cPS9500/CS1011/cSO2110/DC1398/DI2653/DO2623/DO4331/DS4387 X20IF10/61/65/74 X20MK020/1/3
     X20PS950/0/2 X20SL80/00/01/10/11 X20XC02/01/02/92"),
   (gone "X67 modules", "X67/BCJ321/DV1311.L12/IF1121"),
   (gone "Logic scanners", "5LS1/66.6/72.6/72.61/87.6/87.61/89.6/89.61"),
   (gone "Remote maintenance modules", "0RMSM1135 0RMSM1135.4G-/CN/EU/JP/US"),
   (gone "USB hub", "usbhub/AP900/APC/PPC"),
   (gone "Accessories (Battery)", "0AC240.9"),
   (gone "Accessories (8Port industrial hub)" ++ " : Replace with 0AC808.9-1", "0AC808.9")].map
    fun (reason, types) => (reason, Text.variants types)

def unsupportedHardware : HardwareCatalogue :=
  unsupportedTypes.map fun (reason, types) => (reason, .listed types)

end StudioMigration.Catalogue
