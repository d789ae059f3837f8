import QueryClient.Http.Request

/-!
# Streams

A local stream together with the way its data are transferred: read for an upload, written for a
download. The caller can put a transfer of its own in the place of the usual one.
-/

namespace QueryClient.Http

inductive StreamKind where
  | download
  | upload
  /-- Neither: such a stream transfers nothing by itself. -/
  | bare
deriving Repr, DecidableEq

/-- The ways of transferring data. -/
inductive Transfer where
  | chunkReader
  | chunkWriter
  | gzipReader
  /-- The caller's own. -/
  | own
deriving Repr, DecidableEq

structure Stream where
  kind : StreamKind
  /-- The data in the stream. -/
  content : List UInt8 := []
  /-- The caller's own transfer; for an upload, the pieces that it hands out. -/
  own : Option (List Piece) := none
  gzip : Bool := false
  closed : Bool := false
  /-- Closing the stream fails. -/
  stuck : Bool := false
  /-- The pieces that the caller's own transfer has taken. -/
  taken : List (List UInt8) := []
deriving Repr, DecidableEq

namespace Stream

/-- Put the caller's own transfer in place. -/
def setOwn (s : Stream) (pieces : List Piece) : Stream :=
  { s with own := some pieces }

/-- Compress what is transferred. -/
def applyGzip (s : Stream) : Stream :=
  { s with gzip := true }

def isWrite (s : Stream) : Except Fault Bool :=
  match s.kind with
  | .download => .ok false
  | .upload => .ok true
  | .bare => .error .unimplemented

/-- The way its data are transferred. -/
def transfer (s : Stream) : Except Fault Transfer :=
  match s.kind, s.own with
  | .upload, own =>
    .ok (if s.gzip then .gzipReader else if own.isSome then .own else .chunkReader)
  | _, some _ => .ok .own
  | .download, none => .ok .chunkWriter
  | .bare, none => .error .unimplemented

/-- Close the stream; a failure to do so is passed over. -/
def close (s : Stream) : Stream :=
  if s.stuck then s else { s with closed := true }

def upload (s : Stream) : Upload where
  strategy :=
    match s.own with
    | some pieces => .handed pieces
    | none => .reader { supply := .bytes s.content }
  gzip := s.gzip

/-- Write pieces from the beginning of the stream on, unless the caller takes them. -/
def receive (s : Stream) (chunks : List (List UInt8)) : Stream :=
  if s.own.isSome then { s with taken := s.taken ++ chunks }
  else { s with content := chunks.flatten ++ s.content.drop chunks.flatten.length }

/-- A request with the headers and the transfer of the stream. -/
def attach (s : Stream) (r : Request) : Except Fault Request := do
  let upload ← s.isWrite
  let r :=
    if !s.gzip then r
    else if upload then
      (r.header "Content-Encoding" (.text "gzip")).header "Content-Type"
        (.text "application/x-www-form-urlencoded")
    else r.header "Accept-Encoding" (.text "gzip")
  let r := r.header "Transfer-Encoding" (.text "chunked")
  let _ ← s.transfer
  return if upload then { r with upload := some s.upload } else { r with download := some [] }

end Stream

end QueryClient.Http
