import Mathlib.Data.List.Forall2
import ThreadHost.Host
/-!
# Readers, one item after another

A row of items is read if each of them is, and the values are those of the items in their order. A
row of digits makes a number of its length (`foldl_digits_lt`).
-/

namespace ThreadHost.Text

variable {α β ε : Type}

theorem mapM_eq_some_iff {read : α → Option β} {items : List α} {values : List β} :
    items.mapM read = some values ↔
      List.Forall₂ (fun item value => read item = some value) items values := by
  induction items generalizing values with
  | nil => simp [eq_comm]
  | cons item items inductionHypothesis =>
    rw [List.mapM_cons, List.forall₂_cons_left_iff]
    cases read item with
    | none => simp
    | some value =>
      cases others : items.mapM read <;> simp [← inductionHypothesis, others, eq_comm]

theorem mapM_eq_ok_iff {read : α → Except ε β} {items : List α} {values : List β} :
    items.mapM read = .ok values ↔
      List.Forall₂ (fun item value => read item = .ok value) items values := by
  induction items generalizing values with
  | nil => simp [eq_comm, pure, Except.pure]
  | cons item items inductionHypothesis =>
    rw [List.mapM_cons, List.forall₂_cons_left_iff]
    cases read item with
    | error fault => simp [bind, Except.bind]
    | ok value =>
      cases others : items.mapM read <;>
        simp [bind, Except.bind, pure, Except.pure, ← inductionHypothesis, others, eq_comm]

/-- Each of some items that are read has a value. -/
theorem exists_of_mapM {read : α → Option β} {items : List α} {values : List β}
    (known : items.mapM read = some values) {item : α} (among : item ∈ items) :
    ∃ value, read item = some value := by
  have each := mapM_eq_some_iff.1 known
  clear known
  induction each with
  | nil => cases among
  | cons first _ inductionHypothesis =>
    rcases List.mem_cons.1 among with rfl | among
    · exact ⟨_, first⟩
    · exact inductionHypothesis among

/-- What an answer of two readers, one after the other, is made of. -/
theorem bind_eq_ok_iff {first : Except ε α} {next : α → Except ε β} {answer : β} :
    first >>= next = .ok answer ↔ ∃ value, first = .ok value ∧ next value = .ok answer := by
  cases first <;> simp [bind, Except.bind]

/-- What holds of every value that a reader gives holds of all values of a row. -/
theorem forall_of_forall₂ {Reads : α → β → Prop} {Property : β → Prop} {items : List α}
    {values : List β} (read : List.Forall₂ Reads items values)
    (each : ∀ item value, Reads item value → Property value) : ∀ value ∈ values, Property value :=
  ((List.forall₂_and_left _ _).1 (read.flip.imp fun value item reads => ⟨each item value reads, reads⟩)).1

/-- Digits below a base, put together behind a start, stay below the next start. -/
theorem foldl_digits_lt {base : Nat} {digits : List Nat} (below : ∀ digit ∈ digits, digit < base)
    (start : Nat) :
    digits.foldl (fun sum digit => sum * base + digit) start <
      (start + 1) * Nat.pow base digits.length := by
  induction digits generalizing start with
  | nil => simp
  | cons digit digits inductionHypothesis =>
    have small : digit < base := below digit List.mem_cons_self
    have next : start * base + digit + 1 ≤ (start + 1) * base := by
      rw [Nat.succ_mul]
      omega
    calc (digit :: digits).foldl (fun sum digit => sum * base + digit) start
        < (start * base + digit + 1) * Nat.pow base digits.length :=
          inductionHypothesis (fun other member => below other (List.mem_cons_of_mem _ member)) _
      _ ≤ (start + 1) * base * Nat.pow base digits.length := Nat.mul_le_mul_right _ next
      _ = (start + 1) * Nat.pow base (digits.length + 1) := by
          rw [Nat.mul_assoc, Nat.mul_comm base]
          rfl

end ThreadHost.Text
