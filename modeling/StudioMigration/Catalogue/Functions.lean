import StudioMigration.Catalogue.Basic

/-!
# Functions and function blocks

Functions and function blocks that no longer exist, and the functions of the string and mathematics
libraries that have successors under other names.
-/

namespace StudioMigration.Catalogue

def useManager : String := "No longer supported since version 6.0. Use MpComConfigManager instead."

def obsoleteBlocks : Catalogue := .ofRows
  [("ARwin/EthWinInfo/WindowsInfo", "Supports ARwin only"),
   ("ArCertGenerate ArCertGenerateOpcUA",
    "This function block is obsolete. ArCertGenerateX should be used instead of this function block."),
   ("ArUserExport",
    "This function block is obsolete because an absolute path must be specified. ArUserExportEx() should be used instead."),
   ("ArUserImport",
    "This function block is obsolete because an absolute path must be specified. ArUserImportEx() should be used instead."),
   ("AsIOAcc/ReadReg/WriteReg", "Supports SGC only"),
   ("BatteryInfo", "Has been replaced by HwGetBatteryInfo() from library AsHw"),
   ("CAN/node/xnode", "Supports SG3 only"),
   ("CfgGetSntpcData", "Has been replaced by CfgGetNtpcData()"),
   ("CfgGetSntpsData", "Has been replaced by CfgGetNtpsData()"),
   ("CfgSetBroadcastAddr", "Only works in AR versions < 4.00"),
   ("CfgSetSntpClient", "Has been replaced by CfgSetNtpClient()"),
   ("CfgSetSntpServer", "Has been replaced by CfgSetNtpServer()"),
   ("ETHnode EXCInfo GetNdNr", "Supports SG3 only"),
   ("HWInfo", "Has been replaced by function blocks / functions from library AsIODiag"),
   ("MC_BR_AsmGetShuttleSel_AcpTrak",
    "The behavior and features of function block MC_BR_AsmGetShuttleSel_AcpTrak have been applied to MC_BR_AsmGetShuttle_AcpTrak. As a result, MC_BR_AsmGetShuttleSel_AcpTrak became obsolete and was removed."),
   ("MC_BR_AsmSegGrpPowerOff_AcpTrak",
    "Assembly function blocks MC_BR_AsmPowerOff_AcpTrak have been extended to include advanced parameter 'SegmentGroup'. As a result, MC_BR_AsmSegGrpPowerOff_AcpTrak became obsolete and was removed."),
   ("MC_BR_AsmSegGrpPowerOn_AcpTrak",
    "Assembly function blocks MC_BR_AsmPowerOn_AcpTrak have been extended to include advanced parameter 'SegmentGroup'. As a result, MC_BR_AsmSegGrpPowerOn_AcpTrak became obsolete and was removed."),
   ("MC_BR_CamAutomat/GetPar_AcpAx/SetPar_AcpAx",
    "Is removed since 'Cam automat common' and 'Cam automat ACOPOS' are standardized."),
   ("MC_BR_SecAddShWithMov_AcpTrak",
    "The behavior and features of function block MC_BR_SecAddShWithMov_AcpTrak have been applied to MC_BR_SecAddShuttle_AcpTrak. As a result, MC_BR_SecAddShWithMov_AcpTrak became obsolete and was removed."),
   ("MC_BR_SecGetShuttleSel_AcpTrak",
    "The behavior and features of function block MC_BR_SecGetShuttleSel_AcpTrak have been applied to MC_BR_SecGetShuttle_AcpTrak. As a result, MC_BR_SecGetShuttleSel_AcpTrak became obsolete and was removed."),
   ("MEMInfo", "Has been replaced by MEMxInfo()"),
   ("MpAlarmXAcknowledgeAll",
    "This function block has been removed. Its functionality is now available as a command within the MpAlarmXCore function block"),
   ("MpAlarmXConfig/Alarm/Mapping",
    "No longer supported since version 6.0. Use MpComConfigManager or MpComConfigBasic/Advanced instead."),
   ("MpAuditTrailConfig MpBackupCoreConfig MpDataRecorderConfig", useManager),
   ("MpDatabaseCore", "The functionality of the function block is completely replaced by MpDatabaseQuery"),
   ("MpFileManagerConfig", useManager),
   ("MpJ1939Generic",
    "The function block no longer exists with 6.x. The functionality of the function block is completely applied with the MpJ1939Generic configuration. The associated data types have also been removed since they are no longer required."),
   ("MpPackMLCore",
    "The function block was removed with 6.x. The function is completely applied with the MpPackMLStandaloneUnit configuration. The associated data types of the function block have also been removed as they are no longer required."),
   ("MpSequence/ActuatorConfig/AxisConfig/CommandConfig MpUserX/Config/LoginConfig/MappingConfig/ServerConfig",
    useManager),
   ("PMem/Get/Put/Size SetNdNr", "Supports SG3 only"),
   ("Sysconf/Info/Set", "Has been replaced by function blocks / functions from library AsARCfg"),
   ("UA_GetNamespace UA_GetNamespaceIndex",
    "To establish conformity with the client specification, the block has been renamed UA_NamespaceGetIndex. In addition, NamespaceUri is now case sensitive to comply with the OPC UA specification."),
   ("UA_MonitoredItemAdd",
    "The type of application is fundamentally different from the way the new list blocks must be applied, which is why the decision was made to discontinue the blocks. UA_MonitoredItemAddList serve as functional replacements"),
   ("UA_MonitoredItemOperate",
    "The type of application is fundamentally different from the way the new list blocks must be applied, which is why the decision was made to discontinue the blocks. UA_MonitoredItemOperateList serve as functional replacements"),
   ("UA_MonitoredItemRemove",
    "The type of application is fundamentally different from the way the new list blocks must be applied, which is why the decision was made to discontinue the blocks. UA_MonitoredItemRemoveList serve as functional replacements"),
   ("ZYKVLenable", "Supports SG3 only")]

def obsoleteFunctions : Catalogue := .ofRows
  [("AVT_/attach/cancel/create/ident/info/release DA_/burn/copy/create/delete/fix/ident/info/read/store/write
     DIS_/chr/clr/str",
    "Supports SG3 only"),
   ("ERR/_read/xread", "Has been replaced by function blocks / functions from library ArEventLog"),
   ("FORCE_info KEY_/enadis/read MEM_/alloc/free", "Supports SG3 only"),
   ("MpAlarmXClearHistory",
    "This function has been removed. Its functionality is now available as a command within the MpAlarmXHistory function block"),
   ("MpAuditClearBuffer",
    "The function no longer exists with 6.x. The audit buffer can now be deleted using command 'Clear' in MpAuditTrail"),
   ("MpComLink MpComLinkToParent",
    "The functions were used in 5.x to create a hierarchy. With 6.0, the MpComGroup configuration can be used for this purpose"),
   ("MpUserXAccessRight", "The function no longer exists. The rights are handled with 6.x via OPC UA"),
   ("PV_/getadr/getval/ident/info/list/setval/xgetval/xsetval SM_/attach/create/delete/ident/release ST_/resume/suspend
     SW_/gettime/settime SYS/_battery/_info/xinfo UT_/exit/freemsg/ident/recmsg/resume/sendmsg/sleep/suspend",
    "Supports SG3 only")]

/-- String functions with successors under other names. -/
def deprecatedStringFunctions : List String :=
  ["ftoa", "atof", "itoa", "atoi", "memset", "memcpy", "memmove", "memcmp", "strcat", "strlen",
   "strcpy", "strcmp", "wcscat", "wcschr", "wcscmp", "wcsconv", "wcscpy", "wcslen", "wcsncat",
   "wcsncmp", "wcsncpy", "wcsrchr", "wcsset"]

/-- Mathematical functions with successors under other names. -/
def deprecatedMathFunctions : List String :=
  ["atan2", "ceil", "cosh", "floor", "fmod", "frexp", "ldexp", "modf", "pow", "sinh", "tanh"]

end StudioMigration.Catalogue
