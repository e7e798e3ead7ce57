import Overloads.Document.Reader

/-! Texts that nothing but their size keeps from being read. -/
namespace Overloads.Document

open Overloads.Number

variable {cs : List Char} {fault : Fault} {room fuel n : Nat}

namespace Reader

theorem ok_bind {α β : Type} (a : α) (f : α → Except Fault β) : Except.ok a >>= f = f a := rfl

/-- A value that cannot be read behind a key keeps the statement from being read. -/
theorem run_statement (h : (value nestingRoom (2 * cs.length + 1)).run cs = .error fault)
    (hcs : cs.dropWhile isSpace = cs) (o : Outline) (header : Key) :
    (statement o header).run ('a' :: '=' :: cs) = .error fault := by
  have hsteps : (statement o header).run ('a' :: '=' :: cs) =
      (value nestingRoom (2 * (cs.dropWhile isSpace).length + 1) >>= fun d =>
        change (o.assign header ["a"] d) >>= fun o => (pure (o, header) : Reader (Outline × Key))).run
        (cs.dropWhile isSpace) := rfl
  rw [hsteps, hcs, StateT.run_bind, h]
  rfl

theorem read_of_value (h : (value nestingRoom (2 * cs.length + 1)).run cs = .error fault)
    (hcs : cs.dropWhile isSpace = cs) : read ('a' :: '=' :: cs) = .error fault := by
  have hspaces : spaces.run ('a' :: '=' :: cs) = .ok ((), 'a' :: '=' :: cs) := rfl
  have hpeek : peek.run ('a' :: '=' :: cs) = .ok (some 'a', 'a' :: '=' :: cs) := rfl
  have hstatement := run_statement h hcs .empty []
  have hrun : (statements .empty [] (cs.length + 3)).run ('a' :: '=' :: cs) = .error fault := by
    rw [statements, StateT.run_bind, hspaces, ok_bind, StateT.run_bind, hpeek, ok_bind]
    change (statement .empty [] >>= _).run _ = _
    rw [StateT.run_bind, hstatement]
    rfl
  unfold read
  simp only [List.length_cons, hrun]
  rfl

theorem run_allBlanks : allBlanks.run ('[' :: cs) = .ok ((), '[' :: cs) := by
  have hsteps : allBlanks.run ('[' :: cs) =
      (if cs.length + 1 ≠ cs.length + 1 then blanks (cs.length + 1) else pure () : Reader Unit).run
        ('[' :: cs) := rfl
  rw [hsteps, if_neg (not_not_intro rfl)]
  rfl

/-- Each bracket takes its share of the room until there is none. -/
theorem run_value_brackets (h : room < listRoom * n) (hfuel : 2 * n ≤ fuel) :
    (value room fuel).run (List.replicate n '[') = .error .tooDeep := by
  induction n generalizing room fuel with
  | zero => omega
  | succ n ih =>
    obtain ⟨fuel, rfl⟩ : ∃ k, fuel = k + 2 := ⟨fuel - 2, by omega⟩
    let inside : Reader Datum := do
      skip 1
      allBlanks
      if ← accept "]" then return .list [] else return .list (← items (room - listRoom) [] (fuel + 1))
    have hsteps : (value room (fuel + 2)).run (List.replicate (n + 1) '[') =
        (if room < listRoom then throw .tooDeep >>= fun (_ : PUnit) => inside else inside).run
          (List.replicate (n + 1) '[') := rfl
    rw [hsteps]
    by_cases hroom : room < listRoom
    · rw [if_pos hroom]
      rfl
    · rw [if_neg hroom]
      obtain ⟨k, rfl⟩ : ∃ k, n = k + 1 := ⟨n - 1, by unfold listRoom at *; omega⟩
      have hinner : (value (room - listRoom) fuel).run (List.replicate (k + 1) '[') =
          .error .tooDeep := ih (by unfold listRoom at *; omega) (by omega)
      have hitems : (items (room - listRoom) [] (fuel + 1)).run (List.replicate (k + 1) '[') =
          .error .tooDeep := by
        rw [items, StateT.run_bind, hinner]
        rfl
      have hinside : inside.run (List.replicate (k + 2) '[') =
          (allBlanks >>= fun _ => accept "]" >>= fun closed =>
            if closed then return .list []
            else return .list (← items (room - listRoom) [] (fuel + 1))).run
          ('[' :: List.replicate k '[') := rfl
      rw [hinside, StateT.run_bind, run_allBlanks]
      change (items (room - listRoom) [] (fuel + 1) >>= fun ds =>
        (pure (.list ds) : Reader Datum)).run (List.replicate (k + 1) '[') = _
      rw [StateT.run_bind, hitems]
      rfl

theorem digitsOf_ones (n : Nat) :
    digitsOf Char.isDigit (List.replicate n '1') = (List.replicate n '1', []) := by
  induction n with
  | zero => rfl
  | succ n ih =>
    rw [List.replicate_succ, digitsOf.eq_def]
    simp only [show Char.isDigit '1' = true from rfl, if_true, ih]

theorem run_number_ones (h : digitLimit < n) :
    number.run (List.replicate n '1') = .error (.integerTooLong n) := by
  obtain ⟨k, rfl⟩ : ∃ k, n = k + 1 := ⟨n - 1, by omega⟩
  have hbased : based? (List.replicate (k + 1) '1') = none := rfl
  have hsign : readSign (List.replicate (k + 1) '1') = (false, List.replicate (k + 1) '1') := rfl
  have hwhole : wholePart? (List.replicate (k + 1) '1') = some (List.replicate (k + 1) '1', []) := by
    rw [← digitsOf_ones]
    rfl
  have hplaces : places [] = ([], []) := rfl
  have hexponent : exponent [] = (none, []) := rfl
  unfold number
  simp only [StateT.run_bind, StateT.run_get, pure_bind, hbased, hsign, hwhole, hplaces, hexponent,
    List.isEmpty_nil, Option.isNone_none, Bool.and_self, if_true, List.length_replicate, h]
  rfl

/-- Ones in a row are no moment, so they are read as a number. -/
theorem run_value_ones (h : digitLimit < n) :
    (value room (fuel + 1)).run (List.replicate n '1') = .error (.integerTooLong n) := by
  obtain ⟨k, rfl⟩ : ∃ k, n = k + 5 := ⟨n - 5, by unfold digitLimit at h; omega⟩
  have hsteps : (value room (fuel + 1)).run (List.replicate (k + 5) '1') =
      number.run (List.replicate (k + 5) '1') := rfl
  rw [hsteps, run_number_ones h]

end Reader

theorem read_brackets (h : 490 < n) :
    read ('a' :: '=' :: List.replicate n '[') = .error .tooDeep := by
  refine Reader.read_of_value (Reader.run_value_brackets ?_ ?_) ?_
  · unfold Reader.nestingRoom Reader.listRoom
    omega
  · rw [List.length_replicate]
    omega
  · cases n <;> rfl

theorem read_ones (h : 4300 < n) :
    read ('a' :: '=' :: List.replicate n '1') = .error (.integerTooLong n) := by
  refine Reader.read_of_value (Reader.run_value_ones h) ?_
  cases n <;> rfl

end Overloads.Document
