import Mathlib.Data.UInt

/-!
# AntWireless — constants of `antdefines.h` and `antmessage.h`
-/

namespace AntWireless

/-! ## Message sizes -/

def antStandardDataPayloadSize : Nat := 8

def antExtMesgDeviceIdFieldSize : Nat := 4

def antExtStringSize : Nat := 27

def mesgSyncSize : Nat := 1

def mesgSizeSize : Nat := 1

def mesgIdSize : Nat := 1

def mesgExtMesgBfSize : Nat := 1

def mesgChecksumSize : Nat := 1

def mesgMaxExtDataSize : Nat := antExtMesgDeviceIdFieldSize + antExtStringSize

def mesgMaxDataSize : Nat := antStandardDataPayloadSize + mesgExtMesgBfSize + mesgMaxExtDataSize

def mesgHeaderSize : Nat := mesgSyncSize + mesgSizeSize + mesgIdSize

def mesgFrameSize : Nat := mesgHeaderSize + mesgChecksumSize

/-- The size of a channel's buffer. -/
def mesgMaxSize : Nat := mesgMaxDataSize + mesgFrameSize

example : mesgMaxSize = 44 := rfl

def mesgChannelNumSize : Nat := 1

/-- The size of the buffer for response data. -/
def mesgMaxSizeValue : Nat := mesgMaxDataSize + mesgChannelNumSize

example : mesgMaxSizeValue = 41 := rfl

/-! ## Extended messages and bursts -/

/-- The flag of an extended message that a device ID follows. -/
def antExtMesgBitfieldDeviceId : UInt8 := 0x80

def channelNumberMask : UInt8 := 0x1F

def sequenceNumberMask : UInt8 := 0xE0

/-! ## Message IDs -/

def mesgVersionId : UInt8 := 0x3E

def mesgResponseEventId : UInt8 := 0x40

def mesgUnassignChannelId : UInt8 := 0x41

def mesgAssignChannelId : UInt8 := 0x42

def mesgChannelMesgPeriodId : UInt8 := 0x43

def mesgChannelSearchTimeoutId : UInt8 := 0x44

def mesgChannelRadioFreqId : UInt8 := 0x45

def mesgNetworkKeyId : UInt8 := 0x46

def mesgRadioTxPowerId : UInt8 := 0x47

def mesgOpenChannelId : UInt8 := 0x4B

def mesgCloseChannelId : UInt8 := 0x4C

def mesgRequestId : UInt8 := 0x4D

def mesgBroadcastDataId : UInt8 := 0x4E

def mesgAcknowledgedDataId : UInt8 := 0x4F

def mesgBurstDataId : UInt8 := 0x50

def mesgChannelIdId : UInt8 := 0x51

def mesgChannelStatusId : UInt8 := 0x52

def mesgCapabilitiesId : UInt8 := 0x54

def mesgGetSerialNumId : UInt8 := 0x61

def mesgRxExtMesgsEnableId : UInt8 := 0x66

def mesgStartupMesgId : UInt8 := 0x6F

def mesgAutoFreqConfigId : UInt8 := 0x70

def mesgAdvBurstDataId : UInt8 := 0x72

def mesgEventBufferingConfigId : UInt8 := 0x74

def mesgConfigAdvBurstId : UInt8 := 0x78

/-! ## Channel types -/

def parameterRxNotTx : UInt8 := 0x00

def parameterTxNotRx : UInt8 := 0x10

def parameterSharedChannel : UInt8 := 0x20

def parameterNoTxGuardBand : UInt8 := 0x40

def parameterAlwaysRxWildCardSearchId : UInt8 := 0x40

def parameterRxOnly : UInt8 := 0x40

/-! ## Reset reasons -/

def resetPor : UInt8 := 0x00

def resetSuspend : UInt8 := 0x80

def resetSync : UInt8 := 0x40

def resetCmd : UInt8 := 0x20

def resetWdt : UInt8 := 0x02

def resetRst : UInt8 := 0x01

/-! ## Advanced burst -/

def advBurstConfigFreqHop : UInt32 := 0x00000001

/-! ## Standard capabilities -/

def capabilitiesNoRxChannels : UInt8 := 0x01

def capabilitiesNoTxChannels : UInt8 := 0x02

def capabilitiesNoRxMessages : UInt8 := 0x04

def capabilitiesNoTxMessages : UInt8 := 0x08

def capabilitiesNoAckdMessages : UInt8 := 0x10

def capabilitiesNoBurstTransfer : UInt8 := 0x20

/-! ## Advanced capabilities -/

def capabilitiesOverunUnderrun : UInt8 := 0x01

def capabilitiesNetworkEnabled : UInt8 := 0x02

def capabilitiesAp1Version2 : UInt8 := 0x04

def capabilitiesSerialNumberEnabled : UInt8 := 0x08

def capabilitiesPerChannelTxPowerEnabled : UInt8 := 0x10

def capabilitiesLowPrioritySearchEnabled : UInt8 := 0x20

def capabilitiesScriptEnabled : UInt8 := 0x40

def capabilitiesSearchListEnabled : UInt8 := 0x80

/-! ## Advanced capabilities 2 -/

def capabilitiesLedEnabled : UInt8 := 0x01

def capabilitiesExtMessageEnabled : UInt8 := 0x02

def capabilitiesScanModeEnabled : UInt8 := 0x04

def capabilitiesProxSearchEnabled : UInt8 := 0x10

def capabilitiesExtAssignEnabled : UInt8 := 0x20

def capabilitiesFsAntfsEnabled : UInt8 := 0x40

def capabilitiesFit1Enabled : UInt8 := 0x80

/-! ## Advanced capabilities 3 -/

def capabilitiesAdvancedBurstEnabled : UInt8 := 0x01

def capabilitiesEventBufferingEnabled : UInt8 := 0x02

def capabilitiesEventFilteringEnabled : UInt8 := 0x04

def capabilitiesHighDutySearchModeEnabled : UInt8 := 0x08

def capabilitiesActiveSearchSharingModeEnabled : UInt8 := 0x10

def capabilitiesSelectiveDataUpdateEnabled : UInt8 := 0x40

def capabilitiesEncryptedChannelEnabled : UInt8 := 0x80

/-! ## Advanced capabilities 4

Not in the header: a bit position, defined in `ant_ext.c`. -/

def capabilitiesRfactiveNotificationEnabled : UInt8 := 0

/-! ## Channel events -/

def eventRxSearchTimeout : UInt8 := 0x01

def eventRxFail : UInt8 := 0x02

def eventTx : UInt8 := 0x03

def eventTransferRxFailed : UInt8 := 0x04

def eventTransferTxCompleted : UInt8 := 0x05

def eventTransferTxFailed : UInt8 := 0x06

def eventChannelClosed : UInt8 := 0x07

def eventRxFailGoToSearch : UInt8 := 0x08

def eventChannelCollision : UInt8 := 0x09

def eventTransferTxStart : UInt8 := 0x0A

def eventChannelActive : UInt8 := 0x0F

def eventRxBroadcast : UInt8 := 0x9A

def eventRxAcknowledged : UInt8 := 0x9B

def eventRxBurstPacket : UInt8 := 0x9C

def eventRxExtBroadcast : UInt8 := 0x9D

def eventRxExtAcknowledged : UInt8 := 0x9E

def eventRxExtBurstPacket : UInt8 := 0x9F

def eventRxFlagBroadcast : UInt8 := 0xA3

def eventRxFlagAcknowledged : UInt8 := 0xA4

def eventRxFlagBurstPacket : UInt8 := 0xA5

end AntWireless
