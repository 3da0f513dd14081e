import EchoProbe.Event

/-!
# What is due, and when

An `Agenda` holds events in the order in which they are due. Of events due at one time, the one
that was put on the agenda first comes first.
-/

namespace EchoProbe

/-- An event that is due at some time. -/
structure Appointment where
  /-- When it is due, counted from the start. -/
  due : Duration
  /-- The event. -/
  event : Event

/-- Puts an appointment after those that are due no later. -/
def insertAppointment (a : Appointment) : List Appointment → List Appointment
  | [] => [a]
  | b :: rest => if b.due ≤ a.due then b :: insertAppointment a rest else a :: b :: rest

theorem mem_insertAppointment {a x : Appointment} {as : List Appointment} :
    x ∈ insertAppointment a as ↔ x = a ∨ x ∈ as := by
  induction as with
  | nil => simp [insertAppointment]
  | cons b rest ih =>
    simp only [insertAppointment]
    split
    · rw [List.mem_cons, ih, List.mem_cons]
      exact or_left_comm
    · exact List.mem_cons

/-- Appointments in the order in which they are due. -/
structure Agenda where
  /-- The appointments. -/
  toList : List Appointment
  /-- Each is due no later than those after it. -/
  sorted : toList.Pairwise fun a b => a.due ≤ b.due

namespace Agenda

/-- Nothing is due. -/
def empty : Agenda := ⟨[], .nil⟩

/-- Puts an event on the agenda. -/
def arm (t : Agenda) (due : Duration) (event : Event) : Agenda :=
  ⟨insertAppointment ⟨due, event⟩ t.toList, by
    have h := t.sorted
    revert h
    generalize t.toList = as
    intro h
    induction as with
    | nil => exact List.pairwise_singleton _ _
    | cons b rest ih =>
      obtain ⟨hb, hrest⟩ := List.pairwise_cons.1 h
      simp only [insertAppointment]
      split
      · rename_i hba
        refine List.pairwise_cons.2 ⟨fun x hx => ?_, ih hrest⟩
        rcases mem_insertAppointment.1 hx with rfl | hx
        · exact hba
        · exact hb x hx
      · rename_i hba
        have hab : due.nanos ≤ b.due.nanos := Nat.le_of_lt (Nat.not_le.1 hba)
        refine List.pairwise_cons.2 ⟨fun x hx => ?_, h⟩
        rcases List.mem_cons.1 hx with rfl | hx
        · exact hab
        · exact Nat.le_trans hab (hb x hx)⟩

/-- The earliest appointment, and the agenda without it. -/
def next? : Agenda → Option (Appointment × Agenda)
  | ⟨[], _⟩ => none
  | ⟨a :: rest, h⟩ => some (a, ⟨rest, (List.pairwise_cons.1 h).2⟩)

end Agenda

end EchoProbe
