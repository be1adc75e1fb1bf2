import MiniRtsp.Capture.DriverQueue
import MiniRtsp.Detector.LiveToolSampling
import MiniRtsp.Detector.Sampling
import MiniRtsp.Detector.SlotInvariant
import MiniRtsp.Encoder.FrameSizes
import MiniRtsp.Event.EntryRing
import MiniRtsp.Event.Visits
import MiniRtsp.H264.ReaderAgreement
import MiniRtsp.Muxer.MuxerRuns
import MiniRtsp.PersonPet.DetectAnswers
import MiniRtsp.Process.FileSender
import MiniRtsp.Process.Halting
import MiniRtsp.Process.Main
import MiniRtsp.Rtp.FuA
import MiniRtsp.Rtsp.Announced
import MiniRtsp.Rtsp.CameraCalls
import MiniRtsp.Rtsp.CseqEcho
import MiniRtsp.Rtsp.Destination
import MiniRtsp.Rtsp.Dialogue
import MiniRtsp.Rtsp.Drain
import MiniRtsp.Rtsp.Exchange
import MiniRtsp.Rtsp.FreshStart
import MiniRtsp.Rtsp.Lifetime
import MiniRtsp.Rtsp.Reception
import MiniRtsp.Rtsp.RecordedCount
import MiniRtsp.Rtsp.Resources
import MiniRtsp.Rtsp.SendFailure
import MiniRtsp.Rtsp.SequenceGaps
import MiniRtsp.Rtsp.Shutdown
import MiniRtsp.Rtsp.StartAu
import MiniRtsp.Rtsp.Timeline
import MiniRtsp.Rtsp.Transport
import MiniRtsp.Sdp.Base64Buffers
