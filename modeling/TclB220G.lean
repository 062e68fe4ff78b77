import TclB220G.Dpp.Rwfs
import TclB220G.Dpp.EarlyCpio
import TclB220G.PmDomain.Onecell
import TclB220G.Acpi.Interrupt
import TclB220G.Remoteproc.Removal
import TclB220G.Iort.Configure
import TclB220G.Acpi.Dma
import TclB220G.Display.Stage
import TclB220G.Display.Handoff
import TclB220G.Display.HandoffSafety
import TclB220G.Soc.ReservedMemory
import TclB220G.Iort.Scan
import TclB220G.Acpi.Ufs
import TclB220G.Clk.Fwnode
import TclB220G.Wifi.Order
import TclB220G.Audio.VaMacro
import TclB220G.Clk.Clkdev
import TclB220G.Firmware.Verdict
import TclB220G.Iort.BoardMaps
import TclB220G.Dpp.Leftover
import TclB220G.Soc.ReservedWindow
import TclB220G.Dpp.Asl
import TclB220G.Interconnect.Bcm
import TclB220G.Audio.DspClocks
import TclB220G.PmDomain.Attach
import TclB220G.Display.Binding
import TclB220G.Display.StageLife
import TclB220G.Display.Containment
import TclB220G.Display.BringUp
import TclB220G.Display.BringUpContainment
import TclB220G.Audio.CodecIrq
import TclB220G.Audio.CodecIrqAcpi
import TclB220G.Audio.AsmDais
import TclB220G.Display.BridgeState
import TclB220G.Iommu.AdrenoTtbr
import TclB220G.Pinctrl.LpiClocks
import TclB220G.Soundwire.Enumerate
import TclB220G.Remoteproc.Wakeup
import TclB220G.Remoteproc.Glink
import TclB220G.Lib.Custody
import TclB220G.Audio.AcpiAudio
import TclB220G.Spmi.Adapter
import TclB220G.Audio.AfeVote
import TclB220G.Audio.AfePairing
import TclB220G.Firmware.BoardRecords
import TclB220G.UbuntuBase.Initramfs
import TclB220G.Fwnode.Initialized
import TclB220G.Audio.AprRebind
import TclB220G.Audio.AprServices
import TclB220G.Regulator.InitData
import TclB220G.Wifi.WlanDevice
import TclB220G.Spmi.PmicMatch
import TclB220G.Spmi.PmicRevid
import TclB220G.Iort.Bounds
import TclB220G.WindowsBackup.Relay
import TclB220G.Interconnect.BcmVoter
import TclB220G.Display.ComponentMatch
import TclB220G.Interconnect.VoterLifetime
import TclB220G.Q6asm.Client
import TclB220G.Q6asm.PcmStream
import TclB220G.Q6asm.Periods
import TclB220G.DeviceTree.Audit
import TclB220G.Audio.BoardModules
import TclB220G.Audio.HoldModules
import TclB220G.Audio.Service
import TclB220G.Display.GammaLut
