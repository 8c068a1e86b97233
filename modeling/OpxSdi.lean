import OpxSdi.Onie.Theorems
import OpxSdi.Entity.Theorems
import OpxSdi.Cpld.Theorems
import OpxSdi.CommDev.Theorems
import OpxSdi.CommDev.MessagingTheorems
import OpxSdi.CommDev.Writes
import OpxSdi.Bmc.Theorems
import OpxSdi.Bmc.FruTheorems
import OpxSdi.Bmc.ConfigTheorems
import OpxSdi.Bmc.PollerTheorems
import OpxSdi.I2c.Theorems
import OpxSdi.Framework.BusDevices
import OpxSdi.Gpio.Theorems
import OpxSdi.Media.Theorems
import OpxSdi.Media.Power
import OpxSdi.Media.ExtModCtrlTheorems
import OpxSdi.Media.SfpPlusAqTheorems
import OpxSdi.Media.TuneStatusTheorems
import OpxSdi.Media.MonitorTheorems
import OpxSdi.Media.MonitorValueTheorems
import OpxSdi.Media.TxControlTheorems
import OpxSdi.Media.ChannelStatusTheorems
import OpxSdi.Media.CdrTheorems
import OpxSdi.Media.QsfpChannelTheorems
import OpxSdi.Media.QsaTheorems
import OpxSdi.Media.CalibrationTheorems
import OpxSdi.Media.VendorInfoTheorems
import OpxSdi.Media.PageTheorems
import OpxSdi.Media.PhySpeedTheorems
import OpxSdi.Media.RestoreTheorems
import OpxSdi.Media.PresenceTheorems
import OpxSdi.Media.SubPortTheorems
import OpxSdi.I2cMux.Theorems
import OpxSdi.Nvram.Theorems
import OpxSdi.Vmdb.Theorems
import OpxSdi.Vmdb.BlobTheorems
import OpxSdi.Fan.FaultTheorems
import OpxSdi.Fan.ReadBack
import OpxSdi.Fan.SoundTheorems
import OpxSdi.Fan.TargetTheorems
import OpxSdi.Fan.PmbusTheorems
import OpxSdi.Dell.Theorems
import OpxSdi.Thermal.Theorems
import OpxSdi.Onie.VendorTheorems
import OpxSdi.Onie.DeliveryTheorems
import OpxSdi.Entity.RegistryTheorems
import OpxSdi.Bmc.EntityInfoTheorems
import OpxSdi.Sf.EntityInfoTheorems
import OpxSdi.Sf.ExtCtrlTheorems
import OpxSdi.Sf.Tmp
import OpxSdi.Eeprom.Theorems
import OpxSdi.Gpio.DefaultConfigTheorems
import OpxSdi.Vmdb.ScriptTheorems
import OpxSdi.Vmdb.StrFieldTheorems
import OpxSdi.Vmdb.EntityInfoTheorems
import OpxSdi.SegmentDisplay.Theorems
import OpxSdi.Vdriver.Theorems
import OpxSdi.Entity.FaultTheorems
import OpxSdi.Cpld.Pin
import OpxSdi.Vmdb.SemaphoreTheorems
import OpxSdi.VmCore.TargetTheorems
import OpxSdi.Framework.BusList
import OpxSdi.I2cMux.TreeTheorems
import OpxSdi.Bmc.MonitorTheorems
import OpxSdi.Fan.LinearData
import OpxSdi.Power.Ina219
import OpxSdi.Media.QuadPhy
import OpxSdi.CommDev.Delivery
