import McServer.Domain.Text
import McServer.Protocol.Frames
import McServer.Protocol.JsonRpc
import Mathlib.Algebra.Group.Nat.Defs

set_option autoImplicit false

namespace McServer.Protocol

open Domain Lines JsonRpc

inductive UnixSocketError (E : Type) where
  | io (source : E)
  | invalidUtf8
  | frameTooLarge (actual maximum : Nat)

inductive AgentServerError (E : Type) where
  | io (source : E)
  | frameTooLarge (actual maximum : Nat)

inductive TransportError (E : Type) where
  | io (source : E)
  | frameTooLarge (actual maximum : Nat)

section Copies

variable {E : Type}

def UnixSocket.readFrame :
    Reader Byte E → List Byte → Nat → Except (UnixSocketError E) (Nat × List Byte × Reader Byte E) :=
  Protocol.readFrame .io .frameTooLarge

def AgentServer.readFrame :
    Reader Byte E → List Byte → Nat → Except (AgentServerError E) (Nat × List Byte × Reader Byte E) :=
  Protocol.readFrame .io .frameTooLarge

def Transport.readFrame :
    Reader Byte E → List Byte → Nat → Except (TransportError E) (Nat × List Byte × Reader Byte E) :=
  Protocol.readFrame .io .frameTooLarge

end Copies

-- JSON texts. Those that are written are UTF-8 and hold no control character: there is no space between
-- their tokens, and in strings such characters are escaped.
structure Codec where
  toVec : Value → Option (List Byte)
  fromSlice : List Byte → Option Value
  printed : ∀ {value encoded}, toVec value = some encoded → encoded ≠ [] ∧ ∀ byte ∈ encoded, 32 ≤ byte
  utf8 : ∀ {value encoded}, toVec value = some encoded → (Text.fromUtf8 encoded).isSome

inductive RpcClientError where
  | io
  | serialization
  | timeout (operation : String)
  | disconnected
  | frameTooLarge (actual maximum : Nat)
  | invalidResponse (detail : String)
  | remote (code : Int64) (message : String) (data : Option Value)

structure UnixRpcClient where
  socketPath : String
  maxFrameBytes : Nat := 1024 * 1024
  timeoutSeconds : Nat := 30

def carriageReturn : Byte := 13

namespace UnixRpcClient

variable (codec : Codec) (client : UnixRpcClient)

def request (method : String) (params : Value) : Value :=
  .object [("id", .number (.posInt 1)), ("jsonrpc", .string version), ("method", .string method),
    ("params", params)]

def frameOf (method : String) (params : Value) : Except RpcClientError (List Byte) :=
  match codec.toVec (request method params) with
  | none => .error .serialization
  | some encoded =>
    if encoded.length + 1 > client.maxFrameBytes then
      .error (.frameTooLarge (encoded.length + 1) client.maxFrameBytes)
    else .ok (encoded ++ [newline])

variable {codec client}

theorem frameOf_ok {method : String} {params : Value} {frame : List Byte}
    (sends : frameOf codec client method params = .ok frame) :
    ∃ encoded, codec.toVec (request method params) = some encoded ∧ frame = encoded ++ [newline] ∧
      frame.length ≤ client.maxFrameBytes := by
  unfold frameOf at sends
  split at sends
  · simp at sends
  · next encoded written =>
    split at sends
    · simp at sends
    · next small =>
      obtain rfl : encoded ++ [newline] = frame := by simpa using sends
      exact ⟨encoded, written, rfl, by simpa using small⟩

end UnixRpcClient

theorem frames_independent_of_chunks {E : Type} (chunks : Chunks Byte) (buffer : List Byte)
    (maximum calls : Nat) :
    Framed UnixSocketError.frameTooLarge (lines newline chunks.chunks.flatten) maximum calls
        (readFrames (UnixSocket.readFrame (E := E)) maximum calls chunks.reader buffer) ∧
      Framed AgentServerError.frameTooLarge (lines newline chunks.chunks.flatten) maximum calls
        (readFrames (AgentServer.readFrame (E := E)) maximum calls chunks.reader buffer) ∧
      Framed TransportError.frameTooLarge (lines newline chunks.chunks.flatten) maximum calls
        (readFrames (Transport.readFrame (E := E)) maximum calls chunks.reader buffer) ∧
      ∀ codec client method params frame, UnixRpcClient.frameOf codec client method params = .ok frame →
        chunks.chunks.flatten <+: frame → client.maxFrameBytes = maximum →
        (readFrames (UnixSocket.readFrame (E := E)) maximum calls chunks.reader buffer).2 = none := by
  refine ⟨readFrames_chunks _ _ _ _ _ _, readFrames_chunks _ _ _ _ _ _, readFrames_chunks _ _ _ _ _ _, ?_⟩
  intro codec client method params frame sends arrives limit
  obtain ⟨_, _, _, fits⟩ := UnixRpcClient.frameOf_ok sends
  have small : ∀ line ∈ lines newline chunks.chunks.flatten, line.length ≤ maximum := by
    intro line mem
    calc line.length ≤ chunks.chunks.flatten.length := length_le_of_mem_lines mem
      _ ≤ frame.length := arrives.length_le
      _ ≤ client.maxFrameBytes := fits
      _ = maximum := limit
  have framed := readFrames_chunks (E := E) UnixSocketError.io .frameTooLarge chunks buffer maximum calls
  exact congrArg Prod.snd (framed.whole small)

namespace Sample

def ping : String :=
  "\x7b\"id\":1,\"jsonrpc\":\"2.0\",\"method\":\"system.ping\",\"params\":null\x7d"

def codec : Codec where
  toVec
    | .object [("id", .number (.posInt 1)), ("jsonrpc", .string "2.0"), ("method", .string "system.ping"),
        ("params", .null)] => some (Text.bytes ping)
    | _ => none
  fromSlice text := if text = Text.bytes ping then some (UnixRpcClient.request "system.ping" .null) else none
  printed written := by
    split at written
    · rw [← Option.some.inj written]
      decide +kernel
    · cases written
  utf8 written := by
    split at written
    · rw [← Option.some.inj written, Text.fromUtf8_bytes]
      rfl
    · cases written

def pingLine : List Byte := Text.bytes ping ++ [newline]

def client : UnixRpcClient := { socketPath := "/run/mcserver/control.sock" }

def chunks : Chunks Byte := { chunks := [pingLine.take 20, pingLine.drop 20], filled := by decide +kernel }

theorem ping_sent : UnixRpcClient.frameOf codec client "system.ping" .null = .ok pingLine := by
  have small : ¬(Text.bytes ping).length + 1 > client.maxFrameBytes := by decide +kernel
  have written : codec.toVec (UnixRpcClient.request "system.ping" .null) = some (Text.bytes ping) := rfl
  simp only [UnixRpcClient.frameOf, written, if_neg small, pingLine]

theorem chunks_joined : chunks.chunks.flatten = pingLine := by simp [chunks]

end Sample

theorem frames_of_sample_request :
    readFrames (UnixSocket.readFrame (E := Empty)) (1024 * 1024) 2 Sample.chunks.reader [] =
        (measured [Sample.pingLine, []], none) ∧
      (readFrames (UnixSocket.readFrame (E := Empty)) (1024 * 1024) 2 Sample.chunks.reader []).2 = none := by
  obtain ⟨unix, _, _, accepted⟩ := frames_independent_of_chunks (E := Empty) Sample.chunks [] (1024 * 1024) 2
  have cut : lines newline Sample.chunks.chunks.flatten = [Sample.pingLine] := by
    rw [Sample.chunks_joined]
    decide +kernel
  rw [cut] at unix
  have small : Sample.pingLine.length ≤ 1024 * 1024 := by decide +kernel
  have arrives : Sample.chunks.chunks.flatten <+: Sample.pingLine := Sample.chunks_joined ▸ List.prefix_rfl
  exact ⟨unix.whole (by simpa using small),
    accepted Sample.codec Sample.client "system.ping" .null _ Sample.ping_sent arrives rfl⟩

def stripSuffix (suffix : Byte) (frame : List Byte) : List Byte :=
  if frame.getLast? = some suffix then frame.dropLast else frame

def trimLineEnding (frame : List Byte) : List Byte := stripSuffix carriageReturn (stripSuffix newline frame)

-- What `handle_connection` hands to its handler, and the error that ends the connection
def inputs {E : Type} :
    List (Nat × List Byte) × Option (UnixSocketError E) → List String × Option (UnixSocketError E)
  | ([], failure) => ([], failure)
  | ((read, frame) :: frames, failure) =>
    if read = 0 then ([], none)
    else if (trimLineEnding frame).isEmpty then inputs (frames, failure)
    else
      match Text.fromUtf8 (trimLineEnding frame) with
      | none => ([], some .invalidUtf8)
      | some input => ((inputs (frames, failure)).map (input :: ·) id)

theorem trimLineEnding_frame {encoded : List Byte} (printed : ∀ byte ∈ encoded, 32 ≤ byte) :
    trimLineEnding (encoded ++ [newline]) = encoded := by
  have last : encoded.getLast? ≠ some carriageReturn := by
    intro ends
    exact absurd (printed carriageReturn (List.mem_of_getLast? ends)) (by decide)
  simp [trimLineEnding, stripSuffix, last]

theorem lines_printed {encoded : List Byte} (printed : ∀ byte ∈ encoded, 32 ≤ byte) :
    lines newline (encoded ++ [newline]) = [encoded ++ [newline]] := by
  have plain : newline ∉ encoded := fun mem => absurd (printed newline mem) (by decide)
  rw [lines_append_terminator [] plain, lines]

end McServer.Protocol
