import Footage.AnnexB.Escape
import Footage.AnnexB.Split
import Footage.BitReader
import Footage.BitstreamError
import Footage.Bytes
import Footage.Codec
import Footage.CommandLine.Arguments
import Footage.CommandLine.Info
import Footage.CommandLine.Run
import Footage.Decimal.Binary
import Footage.Decimal.Reading
import Footage.Decimal.Shortest
import Footage.Decimal.Whole
import Footage.Export.Container
import Footage.Export.DecodeClock
import Footage.Export.File
import Footage.Export.Mp4.Box
import Footage.Export.Mp4.Movie
import Footage.Export.Mp4.Writer
import Footage.Export.TransportStream.Packet
import Footage.Export.TransportStream.Picture
import Footage.Export.TransportStream.Table
import Footage.Export.TransportStream.Writer
import Footage.FileTree
import Footage.FrameRate
import Footage.JsonText.Cursor
import Footage.JsonText.Scalar
import Footage.JsonText.Skip
import Footage.JsonText.Typed
import Footage.LengthPrefix
import Footage.Main
import Footage.NalUnit
import Footage.Packet.Basic
import Footage.Packet.Buffer
import Footage.Packet.Dump
import Footage.Packet.Error
import Footage.Packet.Thumbnail
import Footage.ParameterSet.Dimensions
import Footage.ParameterSet.H264
import Footage.ParameterSet.H265
import Footage.ParameterSet.Size
import Footage.Proofs.AddAlone
import Footage.Proofs.ByteBudget
import Footage.Proofs.EmulationPrevention
import Footage.Proofs.FanOut
import Footage.Proofs.FillOrder
import Footage.Proofs.Followed
import Footage.Proofs.Handoff
import Footage.Proofs.HistoryAnchor
import Footage.Proofs.LockHierarchy
import Footage.Proofs.Owed
import Footage.Proofs.RecorderAlone
import Footage.Proofs.RecorderCalls
import Footage.Proofs.RecorderRun
import Footage.Proofs.RecorderThread
import Footage.Proofs.Registry
import Footage.Proofs.Removal
import Footage.Proofs.RingFrame
import Footage.Proofs.StepFrame
import Footage.Proofs.ThreadInvariant
import Footage.Recorder.Archive
import Footage.Recorder.Backoff
import Footage.Recorder.Error
import Footage.Recorder.Session
import Footage.Recorder.Worker
import Footage.Report
import Footage.Ring.Buffer
import Footage.Ring.History
import Footage.Ring.Listener
import Footage.Ring.LockOrder
import Footage.Ring.LockUse
import Footage.Ring.RateLimit
import Footage.Ring.Threads
import Footage.Ring.Weighted
import Footage.Settings
import Footage.StartCode
import Footage.Text.Invisible
import Footage.Text.Quoted
import Footage.Time
import Footage.Word
import Footage.Proofs.Effects
import Footage.Proofs.WriterCalls
import Footage.Proofs.ExportCalls
import Footage.Proofs.ExportableWindow
import Footage.Proofs.StreamSplit
import Footage.Proofs.TableChecksum
import Footage.Proofs.TransportPackets
import Footage.Proofs.Emissions
import Footage.Proofs.TransportLossless
import Footage.Proofs.BoxReader
import Footage.Proofs.SampleTables
import Footage.Proofs.Mp4File
import Footage.Proofs.BackPressure
import Footage.Proofs.DumpNames
import Footage.Proofs.DumpRoundTrip
import Footage.Proofs.Framing
import Footage.Proofs.Pictures
import Footage.Proofs.JoinPipeline
import Footage.Proofs.ArchiveRoundTrip
import Footage.Proofs.EscapedForm
import Footage.Proofs.StreamForm
import Footage.Proofs.RawForm
import Footage.Proofs.PacketStream
import Footage.Proofs.ExtractionEffect
import Footage.Proofs.LongestHistory
import Footage.Proofs.LatestSets
import Footage.Proofs.PictureContent
import Footage.Proofs.BitGrammar
import Footage.Proofs.SpsGrammar
import Footage.Proofs.DecodeTimes
import Footage.Proofs.PictureTimes
import Footage.Proofs.WrittenSets
import Footage.Proofs.SamplePictures
import Footage.Proofs.StreamSize
import Footage.Proofs.SourceFraming
import Footage.Proofs.ThumbnailRun
import Footage.Proofs.PictureGroups
import Footage.Proofs.ChecksumBursts
import Footage.Proofs.WarningBalance
