import GoDto.Files.Directory
import Mathlib.Data.List.Basic

/-!
What a written file changes. One place of the directory holds something else afterwards. All paths
that led somewhere still lead there, and those that lead to that place find the new content.
-/

namespace GoDto.Directory

variable {place other : List String} {before after : Directory}

section
variable {entry : Entry} {entries : List (List String × Entry)}

theorem lookup_insert_self : (insert place entry entries).lookup place = some entry := by
  induction entries with
  | nil => simp [insert]
  | cons first rest ih =>
    obtain ⟨here, old⟩ := first
    by_cases same : here = place
    · simp [insert, same]
    · have different : (place == here) = false := by simpa using Ne.symm same
      simp only [insert, if_neg same, List.lookup_cons, different, ih]

theorem lookup_insert_ne (different : other ≠ place) :
    (insert place entry entries).lookup other = entries.lookup other := by
  have absent : (other == place) = false := by simpa using different
  induction entries with
  | nil => simp only [insert, List.lookup_cons, absent]
  | cons first rest ih =>
    obtain ⟨here, old⟩ := first
    by_cases same : here = place
    · subst same
      simp only [insert, if_true, List.lookup_cons, absent]
    · simp only [insert, if_neg same, List.lookup_cons, ih]

/-- Nothing changes where the entry is there already. -/
theorem insert_eq_self (found : entries.lookup place = some entry) :
    insert place entry entries = entries := by
  induction entries with
  | nil => cases found
  | cons first rest ih =>
    obtain ⟨here, old⟩ := first
    by_cases same : here = place
    · subst same
      simp only [List.lookup_cons, beq_self_eq_true, Option.some.injEq] at found
      rw [insert, if_pos rfl, found]
    · have different : (place == here) = false := by simpa using Ne.symm same
      rw [List.lookup_cons, different] at found
      rw [insert, if_neg same, ih found]

theorem put_eq_self {directory : Directory} (inside : place ≠ [])
    (found : directory.entry? place = some entry) : directory.put place entry = directory := by
  unfold entry? at found
  rw [if_neg inside] at found
  rw [put, insert_eq_self found]

theorem put_self (directory : Directory) (entry : Entry) (inside : place ≠ []) :
    Directory.entry? (directory.put place entry) place = some entry := by
  unfold entry?
  rw [if_neg inside]
  exact lookup_insert_self

theorem put_ne (directory : Directory) (entry : Entry) (different : other ≠ place) :
    Directory.entry? (directory.put place entry) other = directory.entry? other := by
  unfold entry? put
  rw [lookup_insert_ne different]

end

theorem look_eq (same : after.entry? place = before.entry? place) :
    after.look place = before.look place := by
  rw [look, look, same]

theorem look_of_found {content : ByteArray} (found : after.entry? place = some (.file content))
    (short : before.look place ≠ .error .nameTooLong) : after.look place = .ok (.file content) := by
  unfold look at short ⊢
  split
  · next long => simp [long] at short
  · rw [found]

/-- A way through folders is not blocked by a change elsewhere. -/
theorem walk_eq_ok {here there steps : List String} (free : before.look place ≠ .ok .folder)
    (others : ∀ other, other ≠ place → after.entry? other = before.entry? other)
    (reached : before.walk here steps = .ok there) : after.walk here steps = .ok there := by
  induction steps generalizing here with
  | nil => exact reached
  | cons step steps ih =>
    unfold walk at reached ⊢
    by_cases standing : before.look here = .ok .folder
    · have elsewhere : here ≠ place := by
        intro same
        subst same
        exact free standing
      rw [standing] at reached
      rw [look_eq (others here elsewhere), standing]
      simp only at reached ⊢
      split
      · next stay =>
        rw [if_pos stay] at reached
        exact ih reached
      · next stay =>
        rw [if_neg stay] at reached
        split
        · next up =>
          rw [if_pos up] at reached
          split
          · next top =>
            rw [if_pos top] at reached
            exact reached
          · next top =>
            rw [if_neg top] at reached
            exact ih reached
        · next up =>
          rw [if_neg up] at reached
          exact ih reached
    · exfalso
      cases look : before.look here with
      | error error => simp [look] at reached
      | ok entry =>
        cases entry with
        | file content => simp [look] at reached
        | folder => exact standing look

theorem resolve_eq_ok {path : String} (free : before.look place ≠ .ok .folder)
    (others : ∀ other, other ≠ place → after.entry? other = before.entry? other)
    (reached : before.resolve path = .ok other) : after.resolve path = .ok other := by
  unfold resolve at reached ⊢
  split
  · next fault => simp [fault] at reached
  · next fine =>
    rw [fine] at reached
    simp only at reached
    split
    · next empty => simp [empty] at reached
    · next root => simp [root] at reached
    · next nonempty relative =>
      exact walk_eq_ok free others (by simpa using reached)

/-- What is written fills one place, where there was a file or nothing. -/
theorem replace_eq_ok {path text : String} (written : before.replace path text = .ok after) :
    ∃ place, before.resolve path = .ok place ∧ namesFolder path = false ∧
      (before.look place = .error .notFound ∨ ∃ content, before.look place = .ok (.file content)) ∧
      after = before.put place (.file text.toUTF8) := by
  unfold replace at written
  cases resolved : before.resolve path with
  | error error => simp [resolved, bind, Except.bind] at written
  | ok place =>
    simp only [resolved, bind, Except.bind] at written
    split at written
    · cases written
    · next plain =>
      refine ⟨place, rfl, by simpa using plain, ?_⟩
      split at written
      · cases written
      · next content found =>
        cases written
        exact ⟨.inr ⟨content, found⟩, rfl⟩
      · next missing =>
        cases written
        exact ⟨.inl missing, rfl⟩
      · cases written

theorem fromUTF8?_toUTF8 (text : String) : String.fromUTF8? text.toUTF8 = some text := by
  have valid : text.toByteArray.IsValidUTF8 := text.isValidUTF8
  simp [String.fromUTF8?, String.fromUTF8, valid]

theorem read_eq_ok {path text : String} (resolved : before.resolve path = .ok place)
    (plain : namesFolder path = false) (found : before.look place = .ok (.file text.toUTF8)) :
    before.read path = .ok text := by
  unfold read
  simp only [resolved, found, plain, bind, Except.bind, fromUTF8?_toUTF8]
  simp

/-- A place that is written is none of a folder, and its name is not too long. -/
theorem place_of_replace {path text : String} (written : before.replace path text = .ok after) :
    ∃ place, before.resolve path = .ok place ∧ namesFolder path = false ∧ place ≠ [] ∧
      before.look place ≠ .ok .folder ∧ before.look place ≠ .error .nameTooLong ∧
      after = before.put place (.file text.toUTF8) := by
  obtain ⟨place, resolved, plain, free, same⟩ := replace_eq_ok written
  have folder : before.look place ≠ .ok .folder := by
    rcases free with missing | ⟨content, found⟩
    · simp [missing]
    · simp [found]
  have inside : place ≠ [] := by
    intro top
    subst top
    exact folder rfl
  have short : before.look place ≠ .error .nameTooLong := by
    rcases free with missing | ⟨content, found⟩
    · simp [missing]
    · simp [found]
  exact ⟨place, resolved, plain, inside, folder, short, same⟩

/-- Every path to the place that was written reads the new text afterwards. -/
theorem read_of_replace {path text : String} (written : before.replace path text = .ok after) :
    ∃ place, before.resolve path = .ok place ∧ after.entry? place = some (.file text.toUTF8) ∧
      (∀ other, other ≠ place → after.entry? other = before.entry? other) ∧
      ∀ path, before.resolve path = .ok place → namesFolder path = false → after.read path = .ok text := by
  obtain ⟨place, resolved, -, inside, folder, short, rfl⟩ := place_of_replace written
  have filled := before.put_self (.file text.toUTF8) inside
  have others (other : List String) (different : other ≠ place) :=
    before.put_ne (.file text.toUTF8) different
  refine ⟨place, resolved, filled, others, fun path resolved plain => ?_⟩
  exact read_eq_ok (resolve_eq_ok folder others resolved) plain (look_of_found filled short)

/-- What is read is the content of a file that the path leads to. -/
theorem file_of_read {path text : String} (read : before.read path = .ok text) :
    ∃ place content, before.resolve path = .ok place ∧ namesFolder path = false ∧
      before.look place = .ok (.file content) ∧ String.fromUTF8? content = some text := by
  unfold Directory.read at read
  cases resolved : before.resolve path with
  | error error => simp [resolved, bind, Except.bind] at read
  | ok place =>
    cases found : before.look place with
    | error error => simp [resolved, found, bind, Except.bind] at read
    | ok entry =>
      simp only [resolved, found, bind, Except.bind] at read
      cases entry with
      | folder => cases read
      | file content =>
        simp only at read
        split at read
        · cases read
        · next plain =>
          split at read
          · next decoded =>
            cases read
            exact ⟨place, content, rfl, by simpa using plain, found, decoded⟩
          · cases read

section
variable {path text other content : String}

/-- Writing the same text again changes nothing. -/
theorem replace_again (written : before.replace path text = .ok after) :
    after.replace path text = .ok after := by
  obtain ⟨place, resolved, plain, inside, folder, short, same⟩ := place_of_replace written
  have filled : after.entry? place = some (.file text.toUTF8) := by rw [same, put_self _ _ inside]
  have others (other : List String) (different : other ≠ place) :
      after.entry? other = before.entry? other := by rw [same, put_ne _ _ different]
  unfold replace
  simp only [resolve_eq_ok folder others resolved, plain, look_of_found filled short, bind,
    Except.bind, put_eq_self inside filled]
  simp

/-- A file that is not the written one reads as before. -/
theorem read_elsewhere (written : before.replace path text = .ok after)
    (read : before.read other = .ok content)
    (different : before.resolve other ≠ before.resolve path) : after.read other = .ok content := by
  obtain ⟨place, resolved, -, -, folder, -, rfl⟩ := place_of_replace written
  obtain ⟨here, bytes, reached, plain, found, decoded⟩ := file_of_read read
  have apart : here ≠ place := by
    intro same
    apply different
    rw [reached, resolved, same]
  have others (other : List String) (different : other ≠ place) :=
    before.put_ne (.file text.toUTF8) different
  unfold Directory.read
  simp only [resolve_eq_ok folder others reached, look_eq (others here apart), found, plain, decoded,
    bind, Except.bind]
  simp

/-- The written file reads as what was written, by whatever path it could be read before. -/
theorem read_same (written : before.replace path text = .ok after)
    (read : before.read other = .ok content)
    (same : before.resolve other = before.resolve path) : after.read other = .ok text := by
  obtain ⟨place, resolved, -, -, readable⟩ := read_of_replace written
  obtain ⟨-, -, -, plain, -, -⟩ := file_of_read read
  exact readable other (same.trans resolved) plain

end

end GoDto.Directory
