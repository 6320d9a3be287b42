import McServer.Library.Lines

set_option autoImplicit false

namespace McServer.Protocol

open Lines

abbrev Byte := UInt8

def newline : Byte := 10

def consumed (available : List Byte) : Nat :=
  match available.findIdx? (· = newline) with
  | none => available.length
  | some index => index + 1

theorem consumed_cases (available : List Byte) :
    (newline ∉ available ∧ available.findIdx? (· = newline) = none ∧ consumed available = available.length) ∨
      ∃ body after, available = body ++ newline :: after ∧ newline ∉ body ∧
        available.findIdx? (· = newline) = some body.length ∧ consumed available = body.length + 1 := by
  by_cases ends : newline ∈ available
  · obtain ⟨body, after, rfl, plain⟩ := List.eq_append_cons_of_mem ends
    have before : body.findIdx? (· = newline) = none := by
      simp only [List.findIdx?_eq_none_iff, decide_eq_false_iff_not]
      intro byte mem same
      exact plain (same ▸ mem)
    have found : (body ++ newline :: after).findIdx? (· = newline) = some body.length := by
      simp [List.findIdx?_append, before, List.findIdx?_cons]
    exact .inr ⟨body, after, rfl, plain, found, by simp [consumed, found]⟩
  · have found : available.findIdx? (· = newline) = none := by
      simp only [List.findIdx?_eq_none_iff, decide_eq_false_iff_not]
      intro byte mem same
      exact ends (same ▸ mem)
    exact .inl ⟨ends, found, by simp [consumed, found]⟩

theorem consumed_le (available : List Byte) : consumed available ≤ available.length := by
  rcases consumed_cases available with ⟨_, _, all⟩ | ⟨body, after, rfl, _, _, part⟩
  · omega
  · simp [part]

theorem consumed_pos {available : List Byte} (shown : available ≠ []) : 0 < consumed available := by
  rcases consumed_cases available with ⟨_, _, all⟩ | ⟨_, _, _, _, _, part⟩
  · have := List.length_pos_iff.mpr shown
    omega
  · omega

section ReadFrame

variable {E F : Type} (io : E → F) (frameTooLarge : Nat → Nat → F)

-- The loop of `read_frame`. A length is below 2^63, so the addition that saturates there is exact.
def readFrameLoop (reader : Reader Byte E) (frame : List Byte) (maximum : Nat) :
    Except F (Nat × List Byte × Reader Byte E) :=
  match _fill : reader.fillBuf with
  | .error error => .error (io error)
  | .ok available =>
    if _ended : available = [] then .ok (frame.length, frame, reader)
    else
      let actual := frame.length + consumed available
      if actual > maximum then .error (frameTooLarge actual maximum)
      else
        let frame := frame ++ available.take (consumed available)
        let reader := reader.consume (consumed available)
        if (available.findIdx? (· = newline)).isSome then .ok (frame.length, frame, reader)
        else readFrameLoop reader frame maximum
  termination_by reader.remaining.length
  decreasing_by
    have rest := Reader.remaining_consume _fill (consumed_le available)
    have within := (Reader.fillBuf_shows _fill).1.length_le
    have moves := consumed_pos _ended
    have some := List.length_pos_iff.mpr _ended
    simp only [rest, List.length_drop]
    omega

def readFrame (reader : Reader Byte E) (_frame : List Byte) (maximum : Nat) :
    Except F (Nat × List Byte × Reader Byte E) :=
  readFrameLoop io frameTooLarge reader [] maximum

def readFrames (read : Reader Byte E → List Byte → Nat → Except F (Nat × List Byte × Reader Byte E))
    (maximum : Nat) : Nat → Reader Byte E → List Byte → List (Nat × List Byte) × Option F
  | 0, _, _ => ([], none)
  | calls + 1, reader, buffer =>
    match read reader buffer maximum with
    | .error error => ([], some error)
    | .ok (length, frame, reader) =>
      let later := readFrames read maximum calls reader frame
      ((length, frame) :: later.1, later.2)

variable {io frameTooLarge}

theorem readFrameLoop_of_fill {reader : Reader Byte E} {available : List Byte}
    (fill : reader.fillBuf = .ok available) (frame : List Byte) (maximum : Nat) :
    readFrameLoop io frameTooLarge reader frame maximum =
      if available = [] then .ok (frame.length, frame, reader)
      else if frame.length + consumed available > maximum then
        .error (frameTooLarge (frame.length + consumed available) maximum)
      else if (available.findIdx? (· = newline)).isSome then
        .ok ((frame ++ available.take (consumed available)).length,
          frame ++ available.take (consumed available), reader.consume (consumed available))
      else readFrameLoop io frameTooLarge (reader.consume (consumed available))
        (frame ++ available.take (consumed available)) maximum := by
  rw [readFrameLoop]
  split
  · simp_all
  · simp_all

-- With `frame` read before and `ahead` still to come, the first of the lines to come is added to
-- the frame and the others are left, unless the frame would grow beyond the maximum.
def Completes (frameTooLarge : Nat → Nat → F) (frame : List Byte) (ahead : List (List Byte)) (maximum : Nat)
    (outcome : Except F (Nat × List Byte × Reader Byte E)) : Prop :=
  if (frame ++ ahead.headD []).length ≤ maximum then
    ∃ next, outcome = .ok ((frame ++ ahead.headD []).length, frame ++ ahead.headD [], next) ∧
      next.failure = none ∧ lines newline next.remaining = ahead.tail
  else ∃ actual, maximum < actual ∧ actual ≤ (frame ++ ahead.headD []).length ∧
    outcome = .error (frameTooLarge actual maximum)

theorem completes_joined {frame items : List Byte} {ahead : List (List Byte)} {maximum : Nat}
    {outcome : Except F (Nat × List Byte × Reader Byte E)} :
    Completes frameTooLarge frame (joined items ahead) maximum outcome ↔
      Completes frameTooLarge (frame ++ items) ahead maximum outcome := by
  simp only [Completes, headD_joined, tail_joined, List.append_assoc]

theorem completes_of_large {frame : List Byte} {ahead : List (List Byte)} {maximum actual : Nat}
    (large : maximum < actual) (reached : actual ≤ (frame ++ ahead.headD []).length) :
    Completes frameTooLarge frame ahead maximum
      (.error (frameTooLarge actual maximum) : Except F (Nat × List Byte × Reader Byte E)) := by
  rw [Completes, if_neg (by omega)]
  exact ⟨actual, large, reached, rfl⟩

theorem readFrameLoop_completes {reader : Reader Byte E} (sound : reader.failure = none)
    {frame : List Byte} {maximum : Nat} (fits : frame.length ≤ maximum) :
    Completes frameTooLarge frame (lines newline reader.remaining) maximum
      (readFrameLoop io frameTooLarge reader frame maximum) := by
  -- The part of the stream that is not consumed shrinks with every turn of the loop.
  induction left : reader.remaining.length using Nat.strongRecOn generalizing reader frame with
  | ind size ih =>
    obtain ⟨available, fill⟩ := Reader.fillBuf_of_sound sound
    obtain ⟨⟨more, shown⟩, atEnd⟩ := Reader.fillBuf_shows fill
    have rest := Reader.remaining_consume fill (consumed_le available)
    rw [readFrameLoop_of_fill fill]
    by_cases ended : available = []
    · simp [Completes, atEnd ended, lines, ended, fits, sound]
    rcases consumed_cases available with ⟨plain, unfound, all⟩ | ⟨body, after, split, plain, found, part⟩
    · -- No newline in sight: all that is shown belongs to the frame.
      have rest : (reader.consume available.length).remaining = more := by
        simpa [all, ← shown] using rest
      have cut : lines newline reader.remaining = joined available (lines newline more) := by
        rw [← shown, lines_append_of_not_mem more plain ended]
      rw [cut, completes_joined]
      by_cases large : frame.length + available.length > maximum
      · simp only [ended, if_false, all, large, if_true]
        exact completes_of_large large (by simp only [List.length_append]; omega)
      · have shorter : (reader.consume available.length).remaining.length < size := by
          have positive := List.length_pos_iff.mpr ended
          rw [rest, ← left, ← shown, List.length_append]
          omega
        have within : (frame ++ available).length ≤ maximum := by
          simp only [List.length_append]
          omega
        have kept : (reader.consume available.length).failure = none := sound
        have later := ih _ shorter kept within rfl
        rw [rest] at later
        simpa [ended, all, large, unfound] using later
    · -- The frame ends in what is shown.
      have ends : available = (body ++ [newline]) ++ after := by simp [split]
      have rest : (reader.consume (body.length + 1)).remaining = after ++ more := by
        rw [part, ← shown, ends, List.append_assoc] at rest
        rw [rest, List.drop_left' (by simp)]
      have cut : lines newline reader.remaining = (body ++ [newline]) :: lines newline (after ++ more) := by
        rw [← shown, split, List.append_assoc, List.cons_append, lines_append_terminator _ plain]
      have taken : available.take (body.length + 1) = body ++ [newline] := by
        rw [ends, List.take_left' (by simp)]
      rw [cut]
      by_cases large : frame.length + (body.length + 1) > maximum
      · simp only [ended, if_false, part, large, if_true]
        exact completes_of_large large (by simp)
      · have within : (frame ++ (body ++ [newline])).length ≤ maximum := by
          simp only [List.length_append, List.length_singleton]
          omega
        simp only [ended, if_false, part, large, found, Option.isSome_some, if_true, taken, Completes,
          List.headD_cons, within, List.tail_cons]
        exact ⟨_, rfl, sound, by rw [rest]⟩

def measured (frames : List (List Byte)) : List (Nat × List Byte) := frames.map fun frame => (frame.length, frame)

-- What a number of calls is to yield of the lines to come: each of them in turn and then nothing,
-- again and again; but the first line that is longer than the maximum stops the calls.
structure Framed (frameTooLarge : Nat → Nat → F) (ahead : List (List Byte)) (maximum calls : Nat)
    (outcome : List (Nat × List Byte) × Option F) : Prop where
  whole : (∀ line ∈ ahead, line.length ≤ maximum) →
    outcome = (measured ((ahead ++ List.replicate calls []).take calls), none)
  large : ∀ fitting line later, ahead = fitting ++ line :: later → (∀ frame ∈ fitting, frame.length ≤ maximum) →
    maximum < line.length →
    if calls ≤ fitting.length then outcome = (measured (fitting.take calls), none)
    else ∃ actual, maximum < actual ∧ actual ≤ line.length ∧
      outcome = (measured fitting, some (frameTooLarge actual maximum))

variable {ahead others : List (List Byte)} {line : List Byte} {maximum calls : Nat}
  {later : List (Nat × List Byte) × Option F}

theorem Framed.ended (framed : Framed frameTooLarge [] maximum calls later) :
    Framed frameTooLarge [] maximum (calls + 1) ((0, []) :: later.1, later.2) where
  whole := by
    intro fits
    simp [framed.whole fits, measured, List.replicate_succ]
  large := by simp

theorem Framed.next (fits : line.length ≤ maximum) (framed : Framed frameTooLarge others maximum calls later) :
    Framed frameTooLarge (line :: others) maximum (calls + 1) ((line.length, line) :: later.1, later.2) where
  whole := by
    intro all
    have rest : ∀ line ∈ others, line.length ≤ maximum := fun line mem => all line (by simp [mem])
    have same : (others ++ List.replicate (calls + 1) []).take calls =
        (others ++ List.replicate calls ([] : List Byte)).take calls := by
      rw [List.replicate_succ', ← List.append_assoc, List.take_append_of_le_length (by simp)]
    simp [framed.whole rest, measured, same]
  large := by
    intro fitting first after split small large
    cases fitting with
    | nil =>
      obtain ⟨rfl, rfl⟩ : line = first ∧ others = after := by simpa using split
      omega
    | cons frame fitting =>
      obtain ⟨rfl, rfl⟩ : line = frame ∧ others = fitting ++ first :: after := by simpa using split
      have stops := framed.large fitting first after rfl (fun frame mem => small frame (by simp [mem])) large
      by_cases few : calls ≤ fitting.length
      · simp only [few, if_true] at stops
        simp [few, stops, measured]
      · simp only [few, if_false] at stops
        obtain ⟨actual, above, reached, outcome⟩ := stops
        simp only [List.length_cons, Nat.add_le_add_iff_right, few, if_false]
        exact ⟨actual, above, reached, by simp [outcome, measured]⟩

theorem Framed.refused {actual : Nat} (large : maximum < actual) (reached : actual ≤ line.length) :
    Framed frameTooLarge (line :: others) maximum (calls + 1) ([], some (frameTooLarge actual maximum)) where
  whole := by
    intro all
    have := all line (by simp)
    omega
  large := by
    intro fitting first after split small _
    cases fitting with
    | nil =>
      obtain ⟨rfl, rfl⟩ : line = first ∧ others = after := by simpa using split
      simp only [List.length_nil, Nat.add_one_le_iff, Nat.not_lt_zero, if_false]
      exact ⟨actual, large, reached, by simp [measured]⟩
    | cons frame fitting =>
      obtain ⟨rfl, _⟩ : line = frame ∧ others = fitting ++ first :: after := by simpa using split
      have := small line (by simp)
      omega

theorem readFrames_framed {reader : Reader Byte E} (sound : reader.failure = none) (buffer : List Byte)
    (maximum calls : Nat) :
    Framed frameTooLarge (lines newline reader.remaining) maximum calls
      (readFrames (readFrame io frameTooLarge) maximum calls reader buffer) := by
  induction calls generalizing reader buffer with
  | zero => constructor <;> simp [readFrames, measured]
  | succ calls ih =>
    have once : Completes frameTooLarge [] (lines newline reader.remaining) maximum
        (readFrame io frameTooLarge reader buffer maximum) :=
      readFrameLoop_completes sound (by simp)
    rw [readFrames]
    cases ahead : lines newline reader.remaining with
    | nil =>
      simp only [ahead, Completes, List.headD_nil, List.append_nil, List.length_nil, Nat.zero_le, if_true,
        List.tail_nil] at once
      obtain ⟨next, outcome, kept, rest⟩ := once
      have later := ih kept []
      rw [rest] at later
      simpa [outcome] using later.ended
    | cons line others =>
      by_cases fits : line.length ≤ maximum
      · simp only [ahead, Completes, List.headD_cons, List.nil_append, fits, if_true, List.tail_cons] at once
        obtain ⟨next, outcome, kept, rest⟩ := once
        have later := ih kept line
        rw [rest] at later
        simpa [outcome] using later.next fits
      · simp only [ahead, Completes, List.headD_cons, List.nil_append, fits, if_false] at once
        obtain ⟨actual, large, reached, outcome⟩ := once
        simpa [outcome] using Framed.refused large reached

theorem readFrames_chunks (io : E → F) (frameTooLarge : Nat → Nat → F) (chunks : Chunks Byte)
    (buffer : List Byte) (maximum calls : Nat) :
    Framed frameTooLarge (lines newline chunks.chunks.flatten) maximum calls
      (readFrames (readFrame io frameTooLarge) maximum calls chunks.reader buffer) :=
  @readFrames_framed E F io frameTooLarge chunks.reader rfl buffer maximum calls

end ReadFrame

end McServer.Protocol
