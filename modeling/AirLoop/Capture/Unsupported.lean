import AirLoop.Capture.Source

/-!
# Hosts without a capture backend (`raop_sender_windows::unsupported`)

The source of a host on which there is nothing to capture with.
-/

namespace AirLoop

/-- A source that no device can be opened with (`UnsupportedPlatformCapture`). -/
structure UnsupportedSource where
  /-- name of the host's operating system -/
  platform : String
  deriving DecidableEq

instance : CaptureSource UnsupportedSource where
  openDevice s :=
    { result := .error (.deviceUnavailable ("loopback capture is not supported on " ++ s.platform))
      source := s }
  start _ s :=
    { result := .error (.deviceUnavailable "loopback capture is not open"), source := s }
  stop s := { result := .ok (), source := s }
  closeDevice s := { result := .ok (), source := s }
  deviceName _ := none
  idle s := ([], s)
  discard s := ([], s)

end AirLoop
