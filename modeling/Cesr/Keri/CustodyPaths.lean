import Cesr.Keri.CustodyRun
import Cesr.Lib.Digits

set_option autoImplicit false

namespace Cesr.Keri

open Checks Calls Digits

variable (library : KeyLibrary)

abbrev KeyCoordinate := U64 × U64

def InSet (ridx kidx : U64) (count : Nat) (coordinate : KeyCoordinate) : Prop :=
  coordinate.1 = ridx ∧ ∃ position < count, coordinate.2.val = kidx.val + position

def Derives (self : SaltyCustodian) (coordinate : KeyCoordinate) : Prop :=
  self.incepted = true ∧
    (InSet self.ridx self.kidx self.count coordinate ∨
      ∃ upcoming, rungUp self.ridx self.kidx self.count = .ok upcoming ∧ InSet upcoming.1 upcoming.2 self.ncount coordinate)

def pathOf (self : SaltyCustodian) (coordinate : KeyCoordinate) : String := derivationPath self coordinate.1 coordinate.2

theorem u64_try_ok (value : Nat) (found : U64) : u64TryFrom value = .ok found ↔ found.val = value := by
  have bound := found.isLt
  unfold u64TryFrom
  by_cases fits : value < 2 ^ 64
  · rw [dif_pos fits, Except.ok.injEq]
    apply Iff.intro
    · intro same
      rw [← same]
    · intro same
      exact Fin.ext same.symm
  · rw [dif_neg fits]
    apply Iff.intro
    · intro same
      cases same
    · omega

theorem checked_index_ok (left right sum : U64) : checkedIndexAdd left right = .ok sum ↔ sum.val = left.val + right.val := by
  rw [← checked_add_some]
  unfold checkedIndexAdd
  cases checkedAdd left right with
  | none => simp
  | some found => simp

theorem pair_at_coordinate (self : SaltyCustodian) (ridx kidx : U64) (count position : Nat) (inside : position < count) (pair : KeyPair)
    (paired : pairAt library self ridx kidx position = .ok pair) :
    ∃ coordinate, InSet ridx kidx count coordinate ∧
      Salt.keyPair library self.salt (pathOf self coordinate) self.tier = .ok pair := by
  simp only [pairAt, bind_ok, map_error_ok] at paired
  obtain ⟨offset, small, keyIndex, added, made⟩ := paired
  rw [u64_try_ok] at small
  rw [checked_index_ok] at added
  exact ⟨(ridx, keyIndex), ⟨rfl, position, inside, by rw [added, small]⟩, made⟩

theorem rung_up_ok (ridx kidx : U64) (count : Nat) (upcoming : U64 × U64) (rung : rungUp ridx kidx count = .ok upcoming) :
    upcoming.1.val = ridx.val + 1 ∧ upcoming.2.val = kidx.val + count := by
  simp only [rungUp, bind_ok, pure_ok, u64_try_ok, checked_index_ok] at rung
  obtain ⟨count64, sized, upR, above, upK, after', same⟩ := rung
  rw [← same]
  exact ⟨above, by rw [after', sized]⟩

-- The sets of a run: where the first begins, and the width of each. A set begins where the one below it ends.
structure Ladder where
  ridx : Nat
  kidx : Nat
  widths : List Nat

def Ladder.start (ladder : Ladder) (rung : Nat) : Nat := ladder.kidx + (ladder.widths.take rung).sum

def Ladder.raise (ladder : Ladder) (more : List Nat) : Ladder := { ladder with widths := ladder.widths ++ more }

def OnLadder (ladder : Ladder) (coordinate : KeyCoordinate) : Prop :=
  ∃ rung count, coordinate.1.val = ladder.ridx + rung ∧ ladder.widths[rung]? = some count ∧
    ladder.start rung ≤ coordinate.2.val ∧ coordinate.2.val < ladder.start rung + count

-- Where a custodian stands on the ladder: its next set is the rung above.
structure Stands (ladder : Ladder) (rung : Nat) (custodian : SaltyCustodian) : Prop where
  ridx : custodian.ridx.val = ladder.ridx + rung
  kidx : custodian.kidx.val = ladder.start rung
  current : ladder.widths[rung]? = some custodian.count
  next : ladder.widths[rung + 1]? = some custodian.ncount

theorem start_succ (ladder : Ladder) (rung count : Nat) (found : ladder.widths[rung]? = some count) :
    ladder.start (rung + 1) = ladder.start rung + count := by
  rw [Ladder.start, Ladder.start, List.take_add_one, found, List.sum_append, ← Nat.add_assoc]
  rfl

theorem start_mono (ladder : Ladder) (low high : Nat) (ordered : low ≤ high) : ladder.start low ≤ ladder.start high := by
  obtain ⟨more, same⟩ := Nat.exists_eq_add_of_le ordered
  rw [same, Ladder.start, Ladder.start, List.take_add, List.sum_append]
  omega

theorem start_raise (ladder : Ladder) (more : List Nat) (rung : Nat) (inside : rung ≤ ladder.widths.length) :
    (ladder.raise more).start rung = ladder.start rung := by
  rw [Ladder.start, Ladder.start, Ladder.raise, List.take_append_of_le_length inside]

theorem on_ladder_raise (ladder : Ladder) (more : List Nat) (coordinate : KeyCoordinate) (placed : OnLadder ladder coordinate) :
    OnLadder (ladder.raise more) coordinate := by
  obtain ⟨rung, count, ridx, found, low, high⟩ := placed
  have inside := (List.getElem?_eq_some_iff.mp found).1
  refine ⟨rung, count, ridx, ?_, ?_⟩
  · rw [Ladder.raise, List.getElem?_append_left inside]
    exact found
  · rw [start_raise ladder more rung (Nat.le_of_lt inside)]
    exact ⟨low, high⟩

theorem derives_on_ladder (ladder : Ladder) (rung : Nat) (self : SaltyCustodian) (stands : Stands ladder rung self)
    (coordinate : KeyCoordinate) (derives : Derives self coordinate) : OnLadder ladder coordinate := by
  rcases derives.2 with current | above
  · obtain ⟨ridx, position, inside, place⟩ := current
    refine ⟨rung, self.count, ?_, stands.current, ?_⟩
    · rw [ridx]
      exact stands.ridx
    · rw [place, stands.kidx]
      omega
  · obtain ⟨upcoming, climbed, ridx, position, inside, place⟩ := above
    obtain ⟨higher, further⟩ := rung_up_ok _ _ _ _ climbed
    have begins := start_succ ladder rung self.count stands.current
    refine ⟨rung + 1, self.ncount, ?_, stands.next, ?_⟩
    · rw [ridx, higher, stands.ridx, Nat.add_assoc]
    · rw [place, further, stands.kidx, begins]
      omega

theorem ladder_ordered (ladder : Ladder) (left right : KeyCoordinate) (first : OnLadder ladder left) (second : OnLadder ladder right)
    (below : left.1.val < right.1.val) : left.2.val ≤ right.2.val := by
  obtain ⟨rung, count, place, found, _, high⟩ := first
  obtain ⟨rung', _, place', _, low, _⟩ := second
  have begins := start_succ ladder rung count found
  have later := start_mono ladder (rung + 1) rung' (by omega)
  omega

def stemOf (self : SaltyCustodian) : PathConvention × U64 := (self.convention, self.pidx)

def stemText (stem : PathConvention × U64) : String :=
  match stem.1 with
  | .keripy => lowerHex stem.2.val
  | .signify => "signify:aid"
  | .custom text => text

theorem path_stem (self : SaltyCustodian) (coordinate : KeyCoordinate) :
    pathOf self coordinate = stemText (stemOf self) ++ lowerHex coordinate.1.val ++ lowerHex coordinate.2.val := rfl

theorem path_text (self : SaltyCustodian) (coordinate : KeyCoordinate) :
    (pathOf self coordinate).toList =
      (stemText (stemOf self)).toList ++ (Nat.toDigits 16 coordinate.1.val ++ Nat.toDigits 16 coordinate.2.val) := by
  rw [path_stem, String.toList_append, String.toList_append, List.append_assoc, lowerHex, lowerHex, String.toList_ofList,
    String.toList_ofList]

theorem ladder_paths (ladder : Ladder) (self other : SaltyCustodian) (stem : stemOf other = stemOf self) (left right : KeyCoordinate)
    (first : OnLadder ladder left) (second : OnLadder ladder right) (same : pathOf self left = pathOf other right) : left = right := by
  have texts := congrArg String.toList same
  rw [path_text, path_text, stem] at texts
  have digits := List.append_cancel_left texts
  have equal : left.1.val = right.1.val ∧ left.2.val = right.2.val := by
    rcases Nat.lt_trichotomy left.1.val right.1.val with below | level | above
    · exact digits_pair (by decide) (by decide) _ _ _ _ (Nat.le_of_lt below) (ladder_ordered ladder left right first second below) digits
    · rw [level] at digits
      exact ⟨level, digits_injective (by decide) (by decide) _ _ (List.append_cancel_left digits)⟩
    · have flipped := digits_pair (by decide) (by decide) _ _ _ _ (Nat.le_of_lt above)
        (ladder_ordered ladder right left second first above) digits.symm
      exact ⟨flipped.1.symm, flipped.2.symm⟩
  exact Prod.ext (Fin.ext equal.1) (Fin.ext equal.2)

-- How high a run has climbed: before inception there is no rung, and then the next set is the top one.
def Climbed (ladder : Ladder) (self : SaltyCustodian) : Prop :=
  (self.incepted = false ∧ ladder.widths = [] ∧ self.ridx.val = ladder.ridx ∧ self.kidx.val = ladder.kidx) ∨
    (self.incepted = true ∧ ∃ rung, Stands ladder rung self ∧ ladder.widths.length = rung + 2)

theorem start_climbed (self : SaltyCustodian) : ∃ ladder, Climbed ladder self := by
  cases started : self.incepted with
  | false => exact ⟨⟨self.ridx.val, self.kidx.val, []⟩, .inl ⟨started, rfl, rfl, rfl⟩⟩
  | true => exact ⟨⟨self.ridx.val, self.kidx.val, [self.count, self.ncount]⟩, .inr ⟨started, 0, ⟨rfl, rfl, rfl, rfl⟩, rfl⟩⟩

theorem climbed_derives (ladder : Ladder) (self : SaltyCustodian) (climbed : Climbed ladder self) (coordinate : KeyCoordinate)
    (derives : Derives self coordinate) : OnLadder ladder coordinate := by
  rcases climbed with fresh | stands
  · exact absurd derives.1 (by simp [fresh.1])
  · obtain ⟨_, rung, stands, _⟩ := stands
    exact derives_on_ladder ladder rung self stands coordinate derives

theorem incept_climbs (ladder : Ladder) (self final : SaltyCustodian) (spec : KeySpec) (commitment : KeyCommitment)
    (climbed : Climbed ladder self) (done : exec (incept library spec) self = (.ok commitment, final)) :
    Climbed (ladder.raise [spec.count, spec.ncount]) final ∧ stemOf final = stemOf self := by
  simp only [incept, exec_get_bind, exec_check_bind_ok, exec_modify_bind, exec_pure, reject_if_ok, exists_done] at done
  obtain ⟨fresh, _, _, _, _, _, _, _, _, _, _, same⟩ := done
  rw [← (Prod.mk.inj same).2]
  rcases climbed with start | stands
  · obtain ⟨_, empty, ridx, kidx⟩ := start
    refine ⟨.inr ⟨rfl, 0, ⟨ridx, kidx, ?_, ?_⟩, ?_⟩, rfl⟩
    · rw [Ladder.raise, empty]
      rfl
    · rw [Ladder.raise, empty]
      rfl
    · rw [Ladder.raise, empty]
      rfl
  · exact absurd stands.1 fresh

theorem rotate_climbs (ladder : Ladder) (self final : SaltyCustodian) (spec : KeySpec) (commitment : KeyCommitment)
    (climbed : Climbed ladder self) (done : exec (rotate library spec) self = (.ok commitment, final)) :
    Climbed (ladder.raise [spec.ncount]) final ∧ stemOf final = stemOf self := by
  simp only [rotate, exec_get_bind, exec_check_bind_ok, exec_modify_bind, exec_pure, reject_if_ok, exists_done] at done
  obtain ⟨started, _, counted, current, rose, _, _, _, _, _, _, _, _, same⟩ := done
  obtain ⟨higher, further⟩ := rung_up_ok _ _ _ _ rose
  rw [ne_eq, not_not] at counted
  rcases climbed with fresh | stands
  · exact absurd fresh.1 started
  · obtain ⟨incepted, rung, stands, long⟩ := stands
    have begins := start_succ ladder rung self.count stands.current
    rw [← (Prod.mk.inj same).2]
    refine ⟨.inr ⟨incepted, rung + 1, ⟨?_, ?_, ?_, ?_⟩, ?_⟩, rfl⟩
    · simp only [higher, stands.ridx, Ladder.raise]
      omega
    · simp only [further, stands.kidx]
      rw [start_raise ladder _ _ (by omega), begins]
    · simp only [Ladder.raise]
      rw [List.getElem?_append_left (by omega), stands.next, counted]
    · simp only [Ladder.raise]
      rw [List.getElem?_append_right (by omega), long, Nat.sub_self]
      rfl
    · simp only [Ladder.raise, List.length_append, List.length_cons, List.length_nil]
      omega

theorem raise_nil (ladder : Ladder) : ladder.raise [] = ladder := by
  rw [Ladder.raise, List.append_nil]

theorem step_climbs (ladder : Ladder) (self : SaltyCustodian) (call : CustodyCall) (climbed : Climbed ladder self) :
    ∃ more, Climbed (ladder.raise more) (exec (custodyStep library call) self).2 ∧
      stemOf (exec (custodyStep library call) self).2 = stemOf self := by
  have stays : ∃ more, Climbed (ladder.raise more) self ∧ stemOf self = stemOf self := by
    refine ⟨[], ?_, rfl⟩
    rw [raise_nil]
    exact climbed
  cases done : exec (custodyStep library call) self with
  | mk result final =>
      cases result with
      | error error =>
          rw [restores_step library call self error final done]
          exact stays
      | ok answer =>
          cases call with
          | incept spec =>
              obtain ⟨commitment, middle, incepted, last⟩ := (exec_bind_ok _ _ _ _ _).mp done
              rw [← (Prod.mk.inj last).2]
              exact ⟨_, incept_climbs library ladder self middle spec commitment climbed incepted⟩
          | rotate spec =>
              obtain ⟨commitment, middle, rotated, last⟩ := (exec_bind_ok _ _ _ _ _).mp done
              rw [← (Prod.mk.inj last).2]
              exact ⟨_, rotate_climbs library ladder self middle spec commitment climbed rotated⟩
          | sign ser indices =>
              simp only [custodyStep, exec_get_bind, exec_check_bind_ok, exec_pure] at done
              obtain ⟨_, _, same⟩ := done
              rw [← (Prod.mk.inj same).2]
              exact stays
          | persist =>
              have same : SaltyCustodian.resume self.salt self.params = final := (Prod.mk.inj done).2
              rw [← same, resume_params]
              exact stays

theorem run_climbs (start : SaltyCustodian) (calls : List CustodyCall) :
    ∃ ladder, Climbed ladder (transcript (custodyStep library) start calls).1 ∧
      ∀ ran ≤ calls.length, stemOf (transcript (custodyStep library) start (calls.take ran)).1 = stemOf start ∧
        ∀ coordinate, Derives (transcript (custodyStep library) start (calls.take ran)).1 coordinate → OnLadder ladder coordinate := by
  induction calls using List.reverseRecOn with
  | nil =>
      obtain ⟨ladder, climbed⟩ := start_climbed start
      refine ⟨ladder, climbed, ?_⟩
      intro ran short
      rw [List.take_nil]
      exact ⟨rfl, climbed_derives ladder start climbed⟩
  | append_singleton earlier call ih =>
      obtain ⟨ladder, climbed, before⟩ := ih
      obtain ⟨more, higher, stem⟩ := step_climbs library ladder _ call climbed
      have whole := before earlier.length (Nat.le_refl _)
      rw [List.take_length] at whole
      rw [← transcript_last] at higher stem
      refine ⟨ladder.raise more, higher, ?_⟩
      intro ran short
      by_cases last : ran ≤ earlier.length
      · rw [List.take_append_of_le_length last]
        refine ⟨(before ran last).1, ?_⟩
        intro coordinate derives
        exact on_ladder_raise ladder more coordinate ((before ran last).2 coordinate derives)
      · rw [List.take_of_length_le (by rw [List.length_append, List.length_singleton]; omega)]
        exact ⟨stem.trans whole.1, climbed_derives _ _ higher⟩

-- Without the ladder the text does not tell the coordinates apart.
theorem paths_collide (self : SaltyCustodian) : pathOf self (1, 17) = pathOf self (17, 1) := by
  apply String.toList_inj.mp
  rw [path_text, path_text]
  exact congrArg _ (List.append_eq_append_iff.mpr (.inl ⟨['1'], rfl, rfl⟩))

def KeyAt (self : SaltyCustodian) (code : VerKeyCode) (coordinate : KeyCoordinate) (verkey : Matter VerKeyCode) : Prop :=
  ∃ pair, Salt.keyPair library self.salt (pathOf self coordinate) self.tier = .ok pair ∧ pair.verfer code = .ok verkey

def AtCoordinates (self : SaltyCustodian) (code : VerKeyCode) (verkeys : List (Matter VerKeyCode)) : Prop :=
  ∀ verkey ∈ verkeys, ∃ coordinate, Derives self coordinate ∧ KeyAt library self code coordinate verkey

theorem derive_set_paths (self : SaltyCustodian) (ridx kidx : U64) (count : Nat) (code : VerKeyCode)
    (verkeys : List (Matter VerKeyCode)) (derived : deriveSet library self ridx kidx count code = .ok verkeys)
    (verkey : Matter VerKeyCode) (inside : verkey ∈ verkeys) :
    ∃ coordinate, InSet ridx kidx count coordinate ∧ KeyAt library self code coordinate verkey := by
  rw [deriveSet, map_m_ok] at derived
  obtain ⟨place, bounded, same⟩ := List.getElem_of_mem inside
  have made := derived.get (by rw [derived.length_eq]; exact bounded) bounded
  simp only [List.get_eq_getElem, same, bind_ok, map_error_ok] at made
  obtain ⟨pair, paired, shown⟩ := made
  have position : place < count := by
    rw [← List.length_range (n := count), derived.length_eq]
    exact bounded
  rw [List.getElem_range] at paired
  obtain ⟨coordinate, here, stretched⟩ := pair_at_coordinate library self ridx kidx count place position pair paired
  exact ⟨coordinate, here, pair, stretched, shown⟩

theorem derived_at_path (self : SaltyCustodian) (started : self.incepted = true) (code : VerKeyCode)
    (verkeys : List (Matter VerKeyCode)) :
    (deriveSet library self self.ridx self.kidx self.count code = .ok verkeys → AtCoordinates library self code verkeys) ∧
      ∀ upcoming, rungUp self.ridx self.kidx self.count = .ok upcoming →
        deriveSet library self upcoming.1 upcoming.2 self.ncount code = .ok verkeys → AtCoordinates library self code verkeys := by
  apply And.intro
  · intro derived verkey inside
    obtain ⟨coordinate, here, made⟩ := derive_set_paths library self _ _ _ code verkeys derived verkey inside
    exact ⟨coordinate, ⟨started, .inl here⟩, made⟩
  · intro upcoming rose derived verkey inside
    obtain ⟨coordinate, here, made⟩ := derive_set_paths library self _ _ _ code verkeys derived verkey inside
    exact ⟨coordinate, ⟨started, .inr ⟨upcoming, rose, here⟩⟩, made⟩

-- The keys that a state derives lie at its coordinates, and two coordinates of
-- the states of one run have two paths.
theorem derivation_paths_distinct (start : SaltyCustodian) (calls : List CustodyCall) :
    (∀ earlier ≤ calls.length, ∀ later ≤ calls.length, ∀ left right : KeyCoordinate,
      Derives (transcript (custodyStep library) start (calls.take earlier)).1 left →
      Derives (transcript (custodyStep library) start (calls.take later)).1 right → left ≠ right →
        pathOf (transcript (custodyStep library) start (calls.take earlier)).1 left ≠
          pathOf (transcript (custodyStep library) start (calls.take later)).1 right) ∧
    (∀ ran ≤ calls.length, ∀ self, (transcript (custodyStep library) start (calls.take ran)).1 = self → self.incepted = true →
      ∀ code verkeys,
        (deriveSet library self self.ridx self.kidx self.count code = .ok verkeys → AtCoordinates library self code verkeys) ∧
          ∀ upcoming, rungUp self.ridx self.kidx self.count = .ok upcoming →
            deriveSet library self upcoming.1 upcoming.2 self.ncount code = .ok verkeys →
              AtCoordinates library self code verkeys) ∧
    ∃ left right, left ≠ right ∧ pathOf start left = pathOf start right := by
  refine ⟨?_, ?_, ?_⟩
  · intro earlier before later after left right first second distinct same
    obtain ⟨ladder, _, placed⟩ := run_climbs library start calls
    obtain ⟨stem, here⟩ := placed earlier before
    obtain ⟨stem', there⟩ := placed later after
    exact distinct (ladder_paths ladder _ _ (stem'.trans stem.symm) left right (here left first) (there right second) same)
  · intro _ _ self _ started code verkeys
    exact derived_at_path library self started code verkeys
  · exact ⟨(1, 17), (17, 1), by decide, paths_collide start⟩

end Cesr.Keri
