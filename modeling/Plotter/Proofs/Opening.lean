import Plotter.Proofs.Launch
import Plotter.Proofs.Merging
import Plotter.Service
import Plotter.Service.Slots

/-!
# Opening a service

Whether a service can be opened with settings that have come out of two layers
(`Service.open?_of_merge`). Putting the layers together allows at least one session, so that there is
a slot to begin with. It does not look at the other end: how many slots can be counted is known only
where they are made. So what was wanted decides, and a number beyond that bound is accepted first and
breaks the program off when it has begun to listen (`Service.tooManySlots_accepted`).
-/

namespace Plotter

namespace Service

/-- Clients can be accepted from the start exactly if there is a slot. -/
theorem exists_step_start_iff {n : Nat} : (∃ s, Slots.Step (.start n) s) ↔ 1 ≤ n := by
  constructor
  · rintro ⟨s, hs⟩
    unfold Slots.start at hs
    cases hs with
    | take n k => exact Nat.succ_pos n
  · intro hn
    obtain ⟨k, rfl⟩ := Nat.exists_eq_add_of_le' hn
    exact ⟨_, .take k 0⟩

variable {v : Service} {m : Machine}

/-- Opening breaks the program off exactly if too many slots are wanted of a machine that reaches a
network. -/
theorem open?_eq_tooManySlots_iff :
    v.open? m = .error .tooManySlots ↔ m.networked = true ∧ maxSlots < v.slots := by
  unfold open?
  split
  · next h => simp [h]
  · next h =>
    split
    · next hlarge => simp [h, hlarge]
    · next hlarge => simp [hlarge]

/-- A service is opened, as it is, exactly if the machine reaches a network and no more slots are
wanted than can be counted. -/
theorem open?_eq_ok_iff {w : Service} :
    v.open? m = .ok w ↔ (m.networked = true ∧ v.slots ≤ maxSlots) ∧ v = w := by
  unfold open?
  split
  · next h => simp [h]
  · next h =>
    split
    · next hlarge => simp [Nat.not_le.2 hlarge]
    · next hlarge => simp [h, Nat.le_of_not_lt hlarge]

/-- The slots are as many as the layers want, and at least one. -/
theorem slots_of_merge {c : Choices} {p : Profile} {st : Settings}
    (h : Settings.merge c p = .ok st) :
    st.service.slots = max 1 (c.maxConnections.getD p.maxConnections) := by
  obtain ⟨-, hst⟩ := Settings.merge_eq_ok h
  rw [hst]
  rfl

/-- There can be a slot. -/
theorem one_le_maxSlots : 1 ≤ maxSlots := by decide

/-- **Opening a service.** Of settings that have come out of two layers: at least one session is
allowed, so that a slot can be taken from the start. How many are allowed can be counted exactly if
how many are wanted can, which is what was chosen or else what the file says. The program breaks off
as it opens the service exactly if that is too much and the machine reaches a network; otherwise, on
such a machine, the service is opened as the settings say. -/
theorem open?_of_merge {c : Choices} {p : Profile} {st : Settings}
    (h : Settings.merge c p = .ok st) (m : Machine) :
    let wanted := c.maxConnections.getD p.maxConnections
    (1 ≤ st.maxConnections ∧ ∃ s, Slots.Step (.start st.service.slots) s) ∧
      (st.maxConnections ≤ maxSlots ↔ wanted ≤ maxSlots) ∧
      (st.service.open? m = .error .tooManySlots ↔ m.networked = true ∧ maxSlots < wanted) ∧
      (m.networked = true → wanted ≤ maxSlots → st.service.open? m = .ok st.service) := by
  intro wanted
  have hslots : st.service.slots = max 1 wanted := slots_of_merge h
  have hone : 1 ≤ st.service.slots := by
    rw [hslots]
    exact Nat.le_max_left 1 wanted
  have hfits : st.service.slots ≤ maxSlots ↔ wanted ≤ maxSlots := by
    rw [hslots, Nat.max_le]
    exact and_iff_right one_le_maxSlots
  refine ⟨⟨hone, exists_step_start_iff.2 hone⟩, hfits, ?_, fun hm hwanted => ?_⟩
  · rw [open?_eq_tooManySlots_iff, ← Nat.not_le, hfits, Nat.not_le]
  · exact open?_eq_ok_iff.2 ⟨⟨hm, hfits.2 hwanted⟩, rfl⟩

/-- As many sessions as can be counted. -/
theorem open?_of_merge_most :
    let c : Choices := { maxConnections := some 2305843009213693951 }
    let st : Settings := ⟨"0.0.0.0", 8124, 2305843009213693951, .usual, "info"⟩
    Settings.merge c .usual = .ok st ∧ st.maxConnections ≤ maxSlots ∧
      (∃ s, Slots.Step (.start st.service.slots) s) ∧
      st.service.open? ⟨true⟩ = .ok st.service := by
  intro c st
  have h : Settings.merge c .usual = .ok st := by decide +kernel
  obtain ⟨⟨-, hstep⟩, hfits, -, hopen⟩ := open?_of_merge h ⟨true⟩
  have hwanted : c.maxConnections.getD Profile.usual.maxConnections ≤ maxSlots := by decide
  exact ⟨h, hfits.2 hwanted, hstep, hopen rfl hwanted⟩

/-- One session more is chosen, among the words of the command line, than can be counted: the
settings are accepted, and the program breaks off when it opens the service. -/
theorem tooManySlots_accepted :
    let words := ["--max-connections", "2305843009213693952"]
    let c : Choices := { maxConnections := some 2305843009213693952 }
    let st : Settings := ⟨"0.0.0.0", 8124, 2305843009213693952, .usual, "info"⟩
    Choices.read words [] = .ok c ∧ Settings.merge c .usual = .ok st ∧
      launch (fun _ => .error .missing) words [] = .ok st ∧
      ¬ st.maxConnections ≤ maxSlots ∧ st.service.open? ⟨true⟩ = .error .tooManySlots := by
  decide +kernel

end Service

end Plotter
