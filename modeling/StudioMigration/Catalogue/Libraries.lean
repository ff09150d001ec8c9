import StudioMigration.Catalogue.Basic

/-!
# Libraries

Libraries that no longer exist, and libraries that need attention by hand.
-/

namespace StudioMigration.Catalogue

def notIndicated : String := "Reason for discontinuation not indicated"

def forProfibus : String :=
  "The library is used to support the PROFIBUS DB master (X20IF1061) and PROFIBUS DP slave (X20IF1065) as well as LS050 and LS166.6, which are all marked as obsolete"

def obsoleteLibraries : Catalogue := .ofRows
  [("ArAutoId", notIndicated),
   ("ArPubSubD", "Recommended replacement: FxPubSubD"),
   ("AsARCNET", "Supports SG3 only"),
   ("AsArLog", "Has been replaced by library ArEventLog"),
   ("AsCisMan", notIndicated),
   ("AsDb", "This library is no longer available from operating system version AR 6.1."),
   ("AsErrTxt", notIndicated),
   ("AsHydCon", "This library has been replaced by the mapp Hydraulics and mapp Control Tools libraries"),
   ("AsIMA", "INA2000 based"),
   ("AsKey", "Only supports Dallas dongles, which are no longer available for current AR versions"),
   ("AsMath", "Has been replaced by AsBrMath for IEC programming, libc for ANSI C programming"),
   ("AsMc", "Supports SG3 only"),
   ("AsNetX", "Supports SGC only"),
   ("AsPROFIBUS", forProfibus),
   ("AsPciExt", notIndicated),
   ("AsPlkSup", "Supports SG3 only"),
   ("AsSGCIO", "Supports SGC only"),
   ("AsSLIP", "SLIP is an obsolete protocol"),
   ("AsSafety", "The library is only for legacy safety. Legacy safety is not supported in AS 6 / AR 6"),
   ("AsSound", "Supports PP500 only. PP500 is discontinued"),
   ("AsString", "Has been replaced by AsBrStr for IEC programming, libc for ANSI C programming"),
   ("AsTPU", "Supports SG3 only"),
   ("AsWStr", "Has been replaced by AsBrWStr"),
   ("AsWndCon", "The library is not supported in Automation Studio 6.1 - check MTWinder"),
   ("BrAbbRws", "Not supported right now but might be in the future"),
   ("C220man CANIO", "Supports SG3 only"),
   ("CONVERT", "Has been replaced by AsIecCon"),
   ("Commserv", "INA2000 based"),
   ("DM_Lib", "Supports SG3 and SGC only"),
   ("DPMaster FB_lib", forProfibus),
   ("FDD_lib", "Supports SG3 and SGC only"),
   ("IF361 IF661", "Supports SG3 only"),
   ("INAclnt", "INA2000 based"),
   ("IOC/onfig/trl IO_lib", "Supports SG3 only"),
   ("IotMqtt",
    "The library IotMqtt may be built with an obsolete version (≤ 4.73.0), which is not compatible with AS6. - You can check for an updated AS6-compatible version here: https://github.com/br-automation-community?q=mqtt"),
   ("Logging", "Has been replaced by library AsArProf"),
   ("LoopCont", "This library has been replaced by the mapp Temperature and mapp Control Tools libraries"),
   ("MTIdent", "Recommended replacement: mapp Control Tools"),
   ("MTTension", "The library is not supported in Automation Studio 6.1"),
   ("MpAlarm", "Replaced by successor mapp AlarmX"),
   ("MpAssetInt",
    "Temporarily removed due to low demand. The functionality of these components is currently being reviewed - check https://github.com/br-automation-community/mappAssetIntEx"),
   ("MpEnergy",
    "Temporarily removed. The component did not meet customer use cases. A reassessment of energy monitoring is underway to determine the future direction and improvements"),
   ("MpOee",
    "Temporarily removed due to low demand. The functionality of these components is currently being reviewed"),
   ("MpTweet",
    "Temporarily removed due to limited use cases. Alternative communication methods are currently being researched, and this function may return in a different form"),
   ("MpUser", "Replaced by successor mapp UserX"),
   ("MpWebXs",
    "No longer available. Various mapp Services components are now integrated into the mapp Cockpit to support the development and commissioning of machines"),
   ("NET2000", "B&R proprietary protocol only available for RS485 and RS232 (CAN only for SG3)"),
   ("PBIXMAN PB_lib", "Supports SG3 only"),
   ("PahoMQTT",
    "The library PahoMQTT may be built with an obsolete version (≤ 4.73.0), which is not compatible with AS6. - You can check for an updated AS6-compatible version here: https://github.com/br-automation-community"),
   ("RIO_lib SPSIOMAN", "Supports SG3 only"),
   ("SRAM200x", notIndicated),
   ("Spooler", "Only supports the 2005 hardware system"),
   ("TCPIPMGR", "Supports SG3 only"),
   ("ppdpr", "Only required for communication with SG3 PP"),
   ("printer", notIndicated)]

/-- Libraries that need a step by hand, with the step. -/
def manualLibraries : Catalogue := .ofRows
  [("AsOpcUac",
    "OPC UA client library updated in AR 6. Manual adjustments required. Consider using the helper asopcua_update.py"),
   ("MTAdvanced MTHyd/Gen/Pump/Valve MTLinAlg MTPrintHW MTSystem MTT/emp/ypes MTWinder",
    "Must be deleted and re-added with a version >= 6.0"),
   ("ArSSL", "The enum ArSslCipherVersionEnum has changed. Make sure to update your code accordingly.")]

end StudioMigration.Catalogue
