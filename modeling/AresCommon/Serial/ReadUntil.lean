import AresCommon.Serial.Reception

/-!
# Reading up to a terminator

`read_until` reads byte by byte. It looks for the terminator at the end of the whole vector
of its caller, but only once it has read as many bytes itself, so that what was there before
takes no part in the match.
-/

namespace AresCommon.Serial

open AresCommon.Foundation

set_option autoImplicit false

/-- Some bytes are enough: they end with the terminator or are as many as wanted. -/
def Stops (expected : List UInt8) (len : Nat) (bytes : List UInt8) : Prop :=
  bytes ≠ [] ∧ (expected <:+ bytes ∨ len ≠ 0 ∧ bytes.length = len)

instance (expected : List UInt8) (len : Nat) (bytes : List UInt8) :
    Decidable (Stops expected len bytes) := inferInstanceAs (Decidable (_ ∧ _))

def TestedEnough (expected : List UInt8) (len bytesRead : Nat) (b : List UInt8) : Prop :=
  (expected.length ≤ bytesRead ∧ b.drop (b.length - expected.length) = expected) ∨
    (len ≠ 0 ∧ len ≤ bytesRead)

instance (expected : List UInt8) (len bytesRead : Nat) (b : List UInt8) :
    Decidable (TestedEnough expected len bytesRead b) := inferInstanceAs (Decidable (_ ∨ _))

/-- The shortest beginning of a stream that is enough. -/
structure StopsFirst (expected : List UInt8) (len : Nat) (stream bytes : List UInt8) : Prop where
  begins : bytes <+: stream
  stops : Stops expected len bytes
  shortest : ∀ fewer, fewer <+: stream → Stops expected len fewer → bytes.length ≤ fewer.length

def GoesOn (expected : List UInt8) (len : Nat) (seen : List UInt8) : Prop :=
  ∀ bytes, bytes <+: seen → ¬Stops expected len bytes

section Stopping

variable {expected seen : List UInt8} {len : Nat}

theorem goes_on_nil : GoesOn expected len [] := by
  intro bytes begins stops
  exact stops.1 (List.prefix_nil.mp begins)

theorem GoesOn.snoc (goesOn : GoesOn expected len seen) {byte : UInt8}
    (more : ¬Stops expected len (seen ++ [byte])) : GoesOn expected len (seen ++ [byte]) := by
  intro bytes begins
  rcases List.prefix_concat_iff.mp begins with rfl | earlier
  · exact more
  · exact goesOn bytes earlier

theorem GoesOn.length_ne (goesOn : GoesOn expected len seen) (wanted : len ≠ 0) :
    seen.length < len := by
  by_contra enough
  rw [not_lt] at enough
  apply goesOn (seen.take len) (List.take_prefix _ _)
  have length : (seen.take len).length = len := by
    rw [List.length_take]
    exact Nat.min_eq_left enough
  refine ⟨?_, .inr ⟨wanted, length⟩⟩
  intro none
  rw [none] at length
  exact wanted length.symm

theorem GoesOn.stops_first (goesOn : GoesOn expected len seen) {byte : UInt8}
    {stream : List UInt8} (begins : seen ++ [byte] <+: stream)
    (stops : Stops expected len (seen ++ [byte])) :
    StopsFirst expected len stream (seen ++ [byte]) := by
  refine ⟨begins, stops, fun fewer early enough => ?_⟩
  by_contra shorter
  rw [not_le, List.length_append, List.length_singleton] at shorter
  apply goesOn fewer _ enough
  apply List.prefix_of_prefix_length_le early ((List.prefix_append _ _).trans begins)
  omega

/-- The tests see nothing of what was in the vector before. -/
theorem GoesOn.tested_enough_iff (goesOn : GoesOn expected len seen) (b : List UInt8)
    (byte : UInt8) : TestedEnough expected len (seen.length + 1) (b ++ seen ++ [byte]) ↔
      Stops expected len (seen ++ [byte]) := by
  have length : (seen ++ [byte]).length = seen.length + 1 := List.length_append
  have window (fits : expected.length ≤ seen.length + 1) :
      (b ++ seen ++ [byte]).drop ((b ++ seen ++ [byte]).length - expected.length) =
        (seen ++ [byte]).drop ((seen ++ [byte]).length - expected.length) := by
    rw [List.append_assoc, List.length_append, Nat.add_sub_assoc (by omega), List.drop_append]
    simp
  have terminated : (expected.length ≤ seen.length + 1 ∧
      (b ++ seen ++ [byte]).drop ((b ++ seen ++ [byte]).length - expected.length) = expected) ↔
      expected <:+ seen ++ [byte] := by
    constructor
    · rintro ⟨fits, same⟩
      rw [window fits] at same
      exact List.suffix_iff_eq_drop.mpr same.symm
    · intro ends
      have fits := ends.length_le
      rw [length] at fits
      refine ⟨fits, ?_⟩
      rw [window fits]
      exact (List.suffix_iff_eq_drop.mp ends).symm
  have counts : (len ≠ 0 ∧ len ≤ seen.length + 1) ↔
      (len ≠ 0 ∧ (seen ++ [byte]).length = len) := by
    rw [length]
    constructor
    · rintro ⟨wanted, enough⟩
      have before := goesOn.length_ne wanted
      exact ⟨wanted, by omega⟩
    · rintro ⟨wanted, same⟩
      exact ⟨wanted, by omega⟩
  rw [TestedEnough, terminated, counts, Stops]
  simp

end Stopping

/-! ### The loop -/

section Loop

variable {self : SerialPosix} {expected seen b : List UInt8} {len : Nat}

def endless : Timeout := .startingAt 0 int64Max

theorem endless_expired {Object Error : Type} :
    (endless.expired : Method OsCall OsReply Object Error _) = pure (false, endless) := if_pos rfl

def afterRead (self : SerialPosix) (expected : List UInt8) (len fuel bytesRead : Nat)
    (b : List UInt8) :
    Except SerialException Nat × List UInt8 →
      SerialProgram (Except SerialException Nat × List UInt8)
  | (.error error, _) => pure (.error error, b)
  | (.ok byteRead, temp) =>
      if 0 < byteRead then
        if TestedEnough expected len (bytesRead + 1) (b ++ temp.take 1) then
          pure (.ok (bytesRead + 1), b ++ temp.take 1)
        else (self.readUntilLoop expected len fuel (bytesRead + 1) endless).on (b ++ temp.take 1)
      else pure (.ok bytesRead, b)

theorem tests_of_loop (self : SerialPosix) (expected : List UInt8) (len fuel bytesRead : Nat)
    (b : List UInt8) :
    Method.on
      (if expected.length ≤ bytesRead ∧ b.drop (b.length - expected.length) = expected then
        pure bytesRead
      else if len ≠ 0 ∧ len ≤ bytesRead then
        pure bytesRead
      else do
        let tested ← endless.expired
        if tested.1 then pure bytesRead
        else self.readUntilLoop expected len fuel bytesRead tested.2) b =
      if TestedEnough expected len bytesRead b then pure (.ok bytesRead, b)
      else (self.readUntilLoop expected len fuel bytesRead endless).on b := by
  by_cases terminated : expected.length ≤ bytesRead ∧
      b.drop (b.length - expected.length) = expected
  · rw [if_pos terminated, if_pos (show TestedEnough expected len bytesRead b from .inl terminated)]
    rfl
  · rw [if_neg terminated]
    by_cases full : len ≠ 0 ∧ len ≤ bytesRead
    · rw [if_pos full, if_pos (show TestedEnough expected len bytesRead b from .inr full)]
      rfl
    · have more : ¬TestedEnough expected len bytesRead b := not_or.mpr ⟨terminated, full⟩
      rw [if_neg full, if_neg more, endless_expired]
      rfl

theorem read_until_turn (fuel bytesRead : Nat) :
    (self.readUntilLoop expected len (fuel + 1) bytesRead endless).on b =
      (self.read fuel 1).on [] >>= afterRead self expected len fuel bytesRead b := by
  rw [SerialPosix.readUntilLoop, Method.on_within]
  apply congrArg ((self.read fuel 1).on [] >>= ·)
  funext outcome
  rcases outcome with ⟨error | byteRead, temp⟩
  · rfl
  · by_cases some : 0 < byteRead
    · simp only [Method.resume, afterRead, if_pos some]
      exact tests_of_loop self expected len fuel (bytesRead + 1) (b ++ temp.take 1)
    · simp only [Method.resume, afterRead, if_neg some]
      rfl

theorem read_one_byte (infinite : self.timeout = int64Max) {fuel k : Nat}
    {previous temp : List UInt8} {events : List OsEvent}
    (run : ((self.read fuel 1).on previous).Yields events (some (.ok k, temp))) :
    ∃ byte, k = 1 ∧ temp = [byte] ∧ received events = [byte] := by
  obtain ⟨whole, length, bound, expired⟩ := (read_loses_nothing run).2.1 k temp rfl
  have one : k = 1 := by
    by_contra fewer
    exact (expired (by omega)).1.1 infinite
  obtain ⟨byte, single⟩ := List.length_eq_one_iff.mp (length.symm.trans one)
  exact ⟨byte, one, single, whole.symm.trans single⟩

theorem after_read_one (fuel : Nat) (byte : UInt8) :
    afterRead self expected len fuel seen.length (b ++ seen) (.ok 1, [byte]) =
      if TestedEnough expected len (seen.length + 1) (b ++ (seen ++ [byte])) then
        pure (.ok (seen ++ [byte]).length, b ++ (seen ++ [byte]))
      else (self.readUntilLoop expected len fuel (seen ++ [byte]).length endless).on
        (b ++ (seen ++ [byte])) := by
  rw [List.length_append, ← List.append_assoc]
  rfl

/-- What the loop has taken when it returns, whatever the system did. -/
theorem read_until_loop_stops (infinite : self.timeout = int64Max) {fuel k : Nat}
    (goesOn : GoesOn expected len seen) {b' : List UInt8} {events : List OsEvent}
    (run : ((self.readUntilLoop expected len fuel seen.length endless).on (b ++ seen)).Yields
      events (some (.ok k, b'))) :
    k = (seen ++ received events).length ∧ b' = b ++ (seen ++ received events) ∧
      ∀ stream, seen ++ received events <+: stream →
        StopsFirst expected len stream (seen ++ received events) := by
  induction fuel generalizing seen events with
  | zero => cases run
  | succ fuel ih =>
      rw [read_until_turn] at run
      obtain ⟨earlier, later, ⟨outcome, temp⟩, first, second, rfl⟩ := run.split
      rcases outcome with error | byteRead
      · cases second
      · obtain ⟨byte, rfl, rfl, got⟩ := read_one_byte infinite first
        rw [after_read_one] at second
        rw [received_append, got]
        split at second
        · rename_i enough
          rw [← List.append_assoc, goesOn.tested_enough_iff] at enough
          cases second
          have none : received [] = [] := rfl
          rw [none, List.append_nil]
          exact ⟨rfl, rfl, fun stream begins => goesOn.stops_first begins enough⟩
        · rename_i more
          rw [← List.append_assoc, goesOn.tested_enough_iff] at more
          have rest := ih (goesOn.snoc more) second
          simpa only [List.append_assoc] using rest

/-- In this world `read(temp, 1)` delivers these bytes one after another. -/
def Delivers {World : Type} (answer : World → (call : OsCall) → OsReply call × World)
    (self : SerialPosix) : List UInt8 → World → Prop
  | [], _ => True
  | byte :: rest, world => ∃ enough next,
      (∀ fuel, enough ≤ fuel →
        ((self.read fuel 1).on []).ending answer world = some ((.ok 1, [byte]), next)) ∧
      Delivers answer self rest next

variable {World : Type} {answer : World → (call : OsCall) → OsReply call × World}

theorem read_until_loop_ending (goesOn : GoesOn expected len seen) {taken rest : List UInt8}
    {world : World} (delivers : Delivers answer self rest world) (begins : taken <+: rest)
    (some : taken ≠ []) (stops : Stops expected len (seen ++ taken))
    (shortest : ∀ fewer, fewer <+: seen ++ taken → Stops expected len fewer →
      (seen ++ taken).length ≤ fewer.length) :
    ∃ enough next, (∀ fuel, enough ≤ fuel →
      ((self.readUntilLoop expected len fuel seen.length endless).on (b ++ seen)).ending answer
        world = .some ((.ok (seen ++ taken).length, b ++ (seen ++ taken)), next)) ∧
      Delivers answer self (rest.drop taken.length) next := by
  induction taken generalizing seen rest world with
  | nil => exact absurd rfl some
  | cons byte taken ih =>
      obtain ⟨later, rfl⟩ := begins
      obtain ⟨enough, next, reads, delivers⟩ := delivers
      have regroup : seen ++ byte :: taken = seen ++ [byte] ++ taken := by simp
      have turn (fuel : Nat) (fueled : enough ≤ fuel) :
          ((self.readUntilLoop expected len (fuel + 1) seen.length endless).on (b ++ seen)).ending
            answer world = (afterRead self expected len fuel seen.length (b ++ seen)
              (.ok 1, [byte])).ending answer next := by
        rw [read_until_turn, Program.ending_bind, reads fuel fueled]
        rfl
      by_cases last : taken = []
      · subst last
        refine ⟨enough + 1, next, fun fuel fueled => ?_, delivers⟩
        obtain ⟨fuel, rfl⟩ := Nat.exists_eq_add_of_le' fueled
        rw [← Nat.add_assoc, turn (fuel + enough) (by omega), after_read_one,
          ← List.append_assoc, if_pos ((goesOn.tested_enough_iff b byte).mpr stops)]
        rfl
      · have more : ¬Stops expected len (seen ++ [byte]) := by
          intro early
          have shorter := shortest (seen ++ [byte]) (by rw [regroup]; exact List.prefix_append _ _)
            early
          have positive := List.length_pos_iff.mpr last
          simp only [List.length_append, List.length_cons, List.length_nil] at shorter
          omega
        rw [regroup] at stops shortest
        obtain ⟨enough', final, loops, delivered⟩ := ih (goesOn.snoc more) delivers
          (List.prefix_append _ _) last stops shortest
        refine ⟨enough + enough' + 1, final, fun fuel fueled => ?_, delivered⟩
        obtain ⟨fuel, rfl⟩ := Nat.exists_eq_add_of_le' fueled
        rw [← Nat.add_assoc, turn (fuel + (enough + enough')) (by omega), after_read_one,
          ← List.append_assoc, if_neg (mt (goesOn.tested_enough_iff b byte).mp more),
          List.append_assoc, loops _ (by omega), regroup]

theorem read_until_on (infinite : self.timeout = int64Max) (fuel : Nat) :
    (self.readUntil fuel expected len).on b =
      (self.readUntilLoop expected len fuel 0 endless).on b := by
  rw [SerialPosix.readUntil, Timeout.new, if_pos infinite, infinite]
  rfl

/-- With an infinite timeout, `read_until` takes from the stream the shortest beginning that is
not empty and ends with the terminator or is as long as wanted, and nothing behind it; the
vector keeps what it held, and the match does not look at it. Whatever the system does, it does
not return with anything else; and it does return when its reads deliver such a beginning. -/
theorem read_until_stops_first (infinite : self.timeout = int64Max) (expected : List UInt8)
    (len : Nat) (b : List UInt8) :
    (∀ fuel events k b',
      ((self.readUntil fuel expected len).on b).Yields events (some (.ok k, b')) →
        k = (received events).length ∧ b' = b ++ received events ∧
          ∀ stream, received events <+: stream →
            StopsFirst expected len stream (received events)) ∧
    ∀ (World : Type) (answer : World → (call : OsCall) → OsReply call × World) (world : World)
      (stream taken : List UInt8), Delivers answer self stream world →
        StopsFirst expected len stream taken → ∃ enough next,
          (∀ fuel, enough ≤ fuel →
            ((self.readUntil fuel expected len).on b).ending answer world =
              some ((.ok taken.length, b ++ taken), next)) ∧
          Delivers answer self (stream.drop taken.length) next := by
  constructor
  · intro fuel events k b' run
    rw [read_until_on infinite, ← List.append_nil b] at run
    exact read_until_loop_stops infinite goes_on_nil run
  · intro World answer world stream taken delivers first
    obtain ⟨enough, next, ends, delivered⟩ := read_until_loop_ending goes_on_nil delivers
      first.begins first.stops.1 first.stops
      (fun fewer early => first.shortest fewer (early.trans first.begins))
    refine ⟨enough, next, fun fuel fueled => ?_, delivered⟩
    rw [read_until_on infinite, ← List.append_nil b]
    exact (ends fuel fueled).trans (by simp)

end Loop

def queued (bytes : List UInt8) : (call : OsCall) → OsReply call × List UInt8
  | .on _ (.read nbytes) =>
      (.ok ⟨(bytes.take 1).take nbytes, List.length_take_le nbytes _⟩, bytes.drop 1)
  | call => (obliging call, bytes)

theorem delivers_queued (bytes : List UInt8) :
    Delivers queued (readingPort int64Max) bytes bytes := by
  induction bytes with
  | nil => trivial
  | cons byte rest ih =>
      refine ⟨2, rest, fun fuel fueled => ?_, ih⟩
      obtain ⟨fuel, rfl⟩ := Nat.exists_eq_add_of_le' fueled
      rfl

/-- A line feed that is half there before the call, and whose first byte comes twice. -/
theorem read_until_stops_first_of_line :
    ∃ fuel next, (((readingPort int64Max).readUntil fuel [13, 10] 0).on [13]).ending queued
      [10, 13, 13, 10, 7] = some ((.ok 4, [13, 10, 13, 13, 10]), next) := by
  have sooner : ∀ n < 4, ¬Stops [13, 10] 0 ([10, 13, 13, 10, 7].take n) := by decide
  have first : StopsFirst [13, 10] 0 [10, 13, 13, 10, 7] [10, 13, 13, 10] := by
    refine ⟨⟨[7], rfl⟩, by decide, fun fewer begins stops => ?_⟩
    by_contra shorter
    rw [List.prefix_iff_eq_take.mp begins] at stops
    exact sooner fewer.length (Nat.lt_of_not_le shorter) stops
  obtain ⟨enough, next, ends, _⟩ := (read_until_stops_first rfl [13, 10] 0 [13]).2 _ queued
    [10, 13, 13, 10, 7] _ _ (delivers_queued _) first
  exact ⟨enough, next, ends enough (le_refl _)⟩

end AresCommon.Serial
