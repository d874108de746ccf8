import Mathlib.Data.List.Infix
import Mathlib.Tactic.Ring

/-!
# Streams of length-prefixed frames

A frame is the length of its payload, in big-endian order, followed by the payload.  A stream begins
with at most one frame, so the frames at its front are determined by the bytes alone: the longest
prefix of complete frames is unique, and a concatenation of frames decodes to its payloads.
-/

namespace BigEndian

/-- The number that bytes denote, the most significant byte first. -/
def value (bytes : List UInt8) : Nat :=
  bytes.foldl (fun total byte => total * 256 + byte.toNat) 0

/-- The lowest `width` bytes of a number, the most significant byte first. -/
def encode : Nat → Nat → List UInt8
  | 0, _ => []
  | width + 1, number => encode width (number / 256) ++ [UInt8.ofNat number]

@[simp]
theorem length_encode (width number : Nat) : (encode width number).length = width := by
  induction width generalizing number with
  | zero => rfl
  | succ width ih => simp [encode, ih]

@[simp]
theorem value_nil : value [] = 0 := rfl

theorem value_concat (bytes : List UInt8) (byte : UInt8) :
    value (bytes ++ [byte]) = value bytes * 256 + byte.toNat := by
  simp [value]

theorem value_encode (width number : Nat) (bounded : number < 256 ^ width) :
    value (encode width number) = number := by
  induction width generalizing number with
  | zero =>
      rw [pow_zero] at bounded
      simp only [encode, value_nil]
      omega
  | succ width ih =>
      have high : number / 256 < 256 ^ width :=
        Nat.div_lt_of_lt_mul (by rwa [pow_succ, mul_comm] at bounded)
      rw [encode, value_concat, ih _ high, UInt8.toNat_ofNat']
      omega

theorem encode_value (bytes : List UInt8) : encode bytes.length (value bytes) = bytes := by
  induction bytes using List.reverseRecOn with
  | nil => rfl
  | append_singleton bytes byte ih =>
      have small : byte.toNat < 256 := byte.toNat_lt
      have high : (value bytes * 256 + byte.toNat) / 256 = value bytes := by omega
      have low : UInt8.ofNat (value bytes * 256 + byte.toNat) = byte := by
        apply UInt8.toNat_inj.mp
        rw [UInt8.toNat_ofNat']
        omega
      rw [List.length_append, List.length_singleton, encode, value_concat, high, low, ih]

end BigEndian

/-- How wide the length of a frame is and how long its payload may be. -/
structure FrameFormat where
  width : Nat
  limit : Nat
  representable : limit < 256 ^ width

namespace FrameFormat

variable (format : FrameFormat)

/-- A payload that may be sent: it is not empty and within the limit. -/
def Fits (payload : List UInt8) : Prop :=
  1 ≤ payload.length ∧ payload.length ≤ format.limit

/-- The frame of a payload. -/
def encode (payload : List UInt8) : List UInt8 :=
  BigEndian.encode format.width payload.length ++ payload

/-- The frames of some payloads, one behind the other. -/
def encodeAll (payloads : List (List UInt8)) : List UInt8 :=
  payloads.flatMap format.encode

/-- The payload of the frame at the front of a stream, and what comes behind the frame. -/
def parse (stream : List UInt8) : Option (List UInt8 × List UInt8) :=
  let length := BigEndian.value (stream.take format.width)
  let body := stream.drop format.width
  if format.width ≤ stream.length ∧ 1 ≤ length ∧ length ≤ format.limit ∧ length ≤ body.length then
    some (body.take length, body.drop length)
  else none

variable {format}

@[simp]
theorem encodeAll_nil : format.encodeAll [] = [] := rfl

@[simp]
theorem encodeAll_cons (payload : List UInt8) (payloads : List (List UInt8)) :
    format.encodeAll (payload :: payloads) =
      format.encode payload ++ format.encodeAll payloads := by
  simp [encodeAll]

theorem encodeAll_concat (payloads : List (List UInt8)) (payload : List UInt8) :
    format.encodeAll (payloads ++ [payload]) =
      format.encodeAll payloads ++ format.encode payload := by
  simp [encodeAll]

/-- Parsing is exact: it succeeds on the frames of fitting payloads and on nothing else. -/
theorem parse_eq_some_iff {stream payload rest : List UInt8} :
    format.parse stream = some (payload, rest) ↔
      format.Fits payload ∧ stream = format.encode payload ++ rest := by
  constructor
  · intro parsed
    simp only [parse] at parsed
    split at parsed
    case isFalse => cases parsed
    case isTrue complete =>
        obtain ⟨header, positive, limited, covered⟩ := complete
        obtain ⟨rfl, rfl⟩ := Prod.mk.inj (Option.some.inj parsed)
        have length : ((stream.drop format.width).take
            (BigEndian.value (stream.take format.width))).length =
              BigEndian.value (stream.take format.width) := by
          rw [List.length_take]
          omega
        have front : (stream.take format.width).length = format.width := by
          rw [List.length_take]
          omega
        have prefixed : BigEndian.encode format.width
            (BigEndian.value (stream.take format.width)) = stream.take format.width := by
          simpa only [front] using BigEndian.encode_value (stream.take format.width)
        refine ⟨?_, ?_⟩
        · rw [Fits, length]
          exact ⟨positive, limited⟩
        · rw [encode, length, prefixed, List.append_assoc, List.take_append_drop,
            List.take_append_drop]
  · rintro ⟨⟨positive, limited⟩, rfl⟩
    have bounded : payload.length < 256 ^ format.width :=
      Nat.lt_of_le_of_lt limited format.representable
    have header : (format.encode payload ++ rest).take format.width =
        BigEndian.encode format.width payload.length := by
      rw [encode, List.append_assoc]
      exact List.take_left' (BigEndian.length_encode _ _)
    have body : (format.encode payload ++ rest).drop format.width = payload ++ rest := by
      rw [encode, List.append_assoc]
      exact List.drop_left' (BigEndian.length_encode _ _)
    have long : format.width ≤ (format.encode payload ++ rest).length := by
      simp only [encode, List.length_append, BigEndian.length_encode]
      omega
    have covered : payload.length ≤ (payload ++ rest).length := by
      rw [List.length_append]
      omega
    simp only [parse, header, body, BigEndian.value_encode _ _ bounded]
    rw [if_pos ⟨long, positive, limited, covered⟩, List.take_left, List.drop_left]

/-- A stream behind its header. -/
theorem parse_header {header body : List UInt8} (whole : header.length = format.width) :
    format.parse (header ++ body) =
      if 1 ≤ BigEndian.value header ∧ BigEndian.value header ≤ format.limit ∧
          BigEndian.value header ≤ body.length then
        some (body.take (BigEndian.value header), body.drop (BigEndian.value header))
      else none := by
  have long : format.width ≤ (header ++ body).length := by
    rw [List.length_append]
    omega
  simp only [parse, List.take_left' whole, List.drop_left' whole, long, true_and]

theorem parse_short {stream : List UInt8} (short : stream.length < format.width) :
    format.parse stream = none := by
  rw [parse, if_neg]
  intro complete
  have header := complete.1
  omega

theorem parse_encode {payload : List UInt8} (fits : format.Fits payload) (rest : List UInt8) :
    format.parse (format.encode payload ++ rest) = some (payload, rest) :=
  parse_eq_some_iff.mpr ⟨fits, rfl⟩

/-- A stream is some frames followed by bytes that begin with no frame. -/
structure Decodes (format : FrameFormat) (stream : List UInt8) (payloads : List (List UInt8))
    (rest : List UInt8) : Prop where
  fits : ∀ payload ∈ payloads, format.Fits payload
  split : stream = format.encodeAll payloads ++ rest
  stuck : format.parse rest = none

/-- The decoded frames are the longest prefix of complete frames. -/
theorem Decodes.longest {stream rest : List UInt8} {payloads others : List (List UInt8)}
    (decodes : format.Decodes stream payloads rest) (fits : ∀ payload ∈ others, format.Fits payload)
    (front : format.encodeAll others <+: stream) : others <+: payloads := by
  obtain ⟨fitting, split, stuck⟩ := decodes
  induction others generalizing stream payloads with
  | nil => exact List.nil_prefix
  | cons other others ih =>
      obtain ⟨tail, same⟩ := front
      have parsed : format.parse stream =
          some (other, format.encodeAll others ++ tail) := by
        rw [← same, encodeAll_cons, List.append_assoc]
        exact parse_encode (fits other List.mem_cons_self) _
      cases payloads with
      | nil =>
          have none : format.parse stream = none := by
            rw [split, encodeAll_nil, List.nil_append]
            exact stuck
          rw [none] at parsed
          cases parsed
      | cons payload payloads =>
          have first : format.parse stream =
              some (payload, format.encodeAll payloads ++ rest) := by
            rw [split, encodeAll_cons, List.append_assoc]
            exact parse_encode (fitting payload List.mem_cons_self) _
          rw [first] at parsed
          obtain ⟨rfl, later⟩ := Prod.mk.inj (Option.some.inj parsed)
          have inner : others <+: payloads :=
            ih (fun each member => fits each (List.mem_cons_of_mem _ member)) ⟨tail, rfl⟩
              (fun each member => fitting each (List.mem_cons_of_mem _ member)) later.symm
          exact List.cons_prefix_cons.mpr ⟨rfl, inner⟩

/-- A concatenation of frames decodes to its payloads. -/
theorem Decodes.eq_of_encodeAll {rest : List UInt8} {payloads others : List (List UInt8)}
    (decodes : format.Decodes (format.encodeAll others) payloads rest)
    (fits : ∀ payload ∈ others, format.Fits payload) : payloads = others := by
  have forward : others <+: payloads := decodes.longest fits List.prefix_rfl
  obtain ⟨more, rfl⟩ := forward
  have lengths := congrArg List.length decodes.split
  rw [encodeAll, encodeAll, List.flatMap_append, List.append_assoc, List.length_append] at lengths
  cases more with
  | nil => exact List.append_nil _
  | cons payload more =>
      have fitting := decodes.fits payload
        (List.mem_append_right _ List.mem_cons_self)
      have positive : 1 ≤ payload.length := fitting.1
      simp only [List.flatMap_cons, encode, List.length_append] at lengths
      omega

end FrameFormat
