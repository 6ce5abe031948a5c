/-!
# Counters of a connection

Every counter has 64 bits and starts again from zero after the largest value.
-/

namespace DebugBridge

/-- What a connection counts. -/
structure Metrics where
  handshakesTotal : UInt64 := 0
  handshakesSuccess : UInt64 := 0
  handshakesFailed : UInt64 := 0
  framesSent : UInt64 := 0
  framesReceived : UInt64 := 0
  framesDropped : UInt64 := 0
  bytesSent : UInt64 := 0
  bytesReceived : UInt64 := 0
  streamsOpened : UInt64 := 0
  streamsClosed : UInt64 := 0
  deriving DecidableEq, Repr, Inhabited

namespace Metrics

/-- The parts of a connection count for themselves; together they have counted the sum. -/
instance : Add Metrics where
  add left right :=
    { handshakesTotal := left.handshakesTotal + right.handshakesTotal
      handshakesSuccess := left.handshakesSuccess + right.handshakesSuccess
      handshakesFailed := left.handshakesFailed + right.handshakesFailed
      framesSent := left.framesSent + right.framesSent
      framesReceived := left.framesReceived + right.framesReceived
      framesDropped := left.framesDropped + right.framesDropped
      bytesSent := left.bytesSent + right.bytesSent
      bytesReceived := left.bytesReceived + right.bytesReceived
      streamsOpened := left.streamsOpened + right.streamsOpened
      streamsClosed := left.streamsClosed + right.streamsClosed }

/-- The counters with the names under which they are reported. -/
def fields (counts : Metrics) : List (String × UInt64) :=
  [("handshakes_total", counts.handshakesTotal), ("handshakes_success", counts.handshakesSuccess),
    ("handshakes_failed", counts.handshakesFailed), ("frames_sent", counts.framesSent),
    ("frames_received", counts.framesReceived), ("frames_dropped", counts.framesDropped),
    ("bytes_sent", counts.bytesSent), ("bytes_received", counts.bytesReceived),
    ("streams_opened", counts.streamsOpened), ("streams_closed", counts.streamsClosed)]

def handshakeAttempt (counts : Metrics) : Metrics :=
  { counts with handshakesTotal := counts.handshakesTotal + 1 }

def handshakeSuccess (counts : Metrics) : Metrics :=
  { counts with handshakesSuccess := counts.handshakesSuccess + 1 }

def handshakeFailed (counts : Metrics) : Metrics :=
  { counts with handshakesFailed := counts.handshakesFailed + 1 }

/-- Counts a frame written, with its size, header included. -/
def frameSent (size : UInt64) (counts : Metrics) : Metrics :=
  { counts with framesSent := counts.framesSent + 1, bytesSent := counts.bytesSent + size }

/-- Counts a frame read, with its size, header included. -/
def frameReceived (size : UInt64) (counts : Metrics) : Metrics :=
  { counts with
    framesReceived := counts.framesReceived + 1, bytesReceived := counts.bytesReceived + size }

/-- Counts a frame that no stream was registered for. -/
def frameDropped (counts : Metrics) : Metrics :=
  { counts with framesDropped := counts.framesDropped + 1 }

def streamOpened (counts : Metrics) : Metrics :=
  { counts with streamsOpened := counts.streamsOpened + 1 }

def streamClosed (counts : Metrics) : Metrics :=
  { counts with streamsClosed := counts.streamsClosed + 1 }

end Metrics
end DebugBridge
