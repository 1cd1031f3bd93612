import RockchipHal.Lib.Reads
import RockchipHal.Lib.Reach
import RockchipHal.Lib.KeyedList
import RockchipHal.Lib.Ledger
import RockchipHal.Lib.Bytes
import RockchipHal.Lib.BitPacking
import RockchipHal.Lib.TextSearch
import RockchipHal.Lib.AddressSpace
import RockchipHal.Lib.Regions
import RockchipHal.Lib.Dom
import RockchipHal.Lib.InStep
import RockchipHal.Lib.Simulation
import RockchipHal.Lib.Triples
import RockchipHal.Lib.Sorting
import RockchipHal.NeuralNetworks.Types
import RockchipHal.NeuralNetworks.Server
import RockchipHal.NeuralNetworks.Builder
import RockchipHal.NeuralNetworks.Transport
import RockchipHal.NeuralNetworks.OutputTransport
import RockchipHal.NeuralNetworks.InputAttributes
import RockchipHal.NeuralNetworks.Status
import RockchipHal.NeuralNetworks.OutputBuffers
import RockchipHal.NeuralNetworks.Contexts
import RockchipHal.NeuralNetworks.PoolLayout
import RockchipHal.NeuralNetworks.RknnApi
import RockchipHal.NeuralNetworks.ApiSessions
import RockchipHal.NeuralNetworks.Inference
import RockchipHal.RockitHw.Interface
import RockchipHal.RockitHw.Drm
import RockchipHal.RockitHw.Mpi
import RockchipHal.RockitHw.ParamBounds
import RockchipHal.RockitHw.MpiRuns
import RockchipHal.RockitHw.DataList
import RockchipHal.RockitHw.PacketBounds
import RockchipHal.RockitHw.CommitList
import RockchipHal.RockitHw.BufferRefs
import RockchipHal.RockitHw.Resources
import RockchipHal.RockitHw.CommitAtomic
import RockchipHal.RockitHw.InitResources
import RockchipHal.RockitHw.GroupClear
import RockchipHal.RockitHw.Client
import RockchipHal.RockitHw.Manager
import RockchipHal.RockitHw.ManagerInit
import RockchipHal.RockitHw.ParamLookup
import RockchipHal.RockitHw.ClientSession
import RockchipHal.RockitHw.Service
import RockchipHal.RockitHw.ServiceLife
import RockchipHal.RockitHw.Lifetime
import RockchipHal.RockitHw.SessionRefinement
import RockchipHal.RockitHw.HeapSnap
import RockchipHal.Sideband.MessageQueue
import RockchipHal.Sideband.Window
import RockchipHal.Sideband.Custody
import RockchipHal.Sideband.Ownership
import RockchipHal.Sideband.FreeSafety
import RockchipHal.Sideband.OnScreen
import RockchipHal.Sideband.OrderlyExit
import RockchipHal.Sideband.ReplyMatching
import RockchipHal.Sideband.RegisterBalance
import RockchipHal.Sideband.SurfaceLifecycle
import RockchipHal.Sideband.DrmVopRender
import RockchipHal.Sideband.FbidCache
import RockchipHal.Sideband.OutputDetect
import RockchipHal.Sideband.OutputSelection
import RockchipHal.Sideband.SidebandPlane
import RockchipHal.Sideband.PlaneUpdate
import RockchipHal.Sideband.FbTeardown
import RockchipHal.Sideband.ReplySlots
import RockchipHal.Sound.AudioHwHdmi
import RockchipHal.Sound.EdidBounds
import RockchipHal.Sound.EdidFormats
import RockchipHal.Sound.CeaWalk
import RockchipHal.Sound.EdidCycles
import RockchipHal.Sound.ConfigFile
import RockchipHal.Sound.CopyTermination
import RockchipHal.Sound.RkAudioSetting
import RockchipHal.Sound.RkAudioSettingManager
import RockchipHal.Sound.SettingEdits
import RockchipHal.Sound.FormatLists
import RockchipHal.Sound.EdidSync
import RockchipHal.Sound.SettingSections
import RockchipHal.Sound.SettingTolerance
import RockchipHal.Sound.OutputSelect
import RockchipHal.Sound.AbstractSettings
import RockchipHal.Sound.SettingsRefinement
import RockchipHal.Sound.LastMode
import RockchipHal.Sound.SinkFormats
import RockchipHal.OutputManager.OutputSession
import RockchipHal.OutputManager.RkOutputManager
import RockchipHal.Rockit.TrackInfo
import RockchipHal.Rockit.ParseMetaData
import RockchipHal.Rockit.TrackMetadata
import RockchipHal.Rockit.MetadataRetrieverCallback
import RockchipHal.Rockit.MetadataRetriever
import RockchipHal.Rockit.PlaybackRate
import RockchipHal.Rockit.TenBit
import RockchipHal.Rockit.TenBitValue
import RockchipHal.Rockit.AudioChannel
import RockchipHal.Rockit.RTChips
import RockchipHal.Rockit.SubtitleSink
import RockchipHal.Rockit.SubtitleSession
import RockchipHal.Rockit.PlayerInvoke
import RockchipHal.Rockit.PlayerLife
