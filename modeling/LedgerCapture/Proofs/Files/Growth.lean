import LedgerCapture.Artifact.Store
import LedgerCapture.Proofs.Result

/-!
Trees that only grow. What a program leaves is put where nothing was, or into a file, so every path that
led somewhere before still does.
-/
namespace LedgerCapture

/-- Not a link. -/
def FileEntry.IsPlain (entry : FileEntry) : Prop :=
  ∀ target, entry ≠ .link target

namespace Files

variable {files between after : Files} {place other : Place} {entry : FileEntry} {path : String}

/-- Nothing is at the place, or a file. -/
def Free (files : Files) (place : Place) : Prop :=
  files.entry? place = none ∨ ∃ content, files.entry? place = some (.file content)

theorem Free.ne_nil (free : files.Free place) : place ≠ [] := by
  rintro rfl
  rcases free with none | ⟨content, file⟩
  · cases none
  · cases file

theorem Free.of_file {content : ByteArray} (found : files.entry? place = some (.file content)) :
    files.Free place :=
  .inr ⟨content, found⟩

/-! ### Putting an entry -/

theorem find?_set (entries : List (Place × FileEntry)) :
    ((put.set place entry entries).find? (·.1 == other)).map Prod.snd =
      if other = place then some entry else (entries.find? (·.1 == other)).map Prod.snd := by
  induction entries with
  | nil =>
    by_cases same : place = other
    · simp [put.set, same]
    · simp [put.set, same, Ne.symm same]
  | cons first rest ih =>
    obtain ⟨there, present⟩ := first
    rw [put.set]
    by_cases first : there = place
    · subst first
      by_cases same : there = other
      · simp [same]
      · simp [same, Ne.symm same]
    · by_cases same : there = other
      · subst same
        simp [first]
      · simp [first, same, ih]

theorem entry_put (nonempty : place ≠ []) :
    Files.entry? (files.put place entry) other = if other = place then some entry else files.entry? other := by
  unfold entry? put
  by_cases root : other = []
  · subst root
    simp [Ne.symm nonempty]
  · simp only [List.isEmpty_iff, root, if_false, find?_set]

def linkLength (entry : Place × FileEntry) : Nat :=
  match entry.2 with
  | .link target => (Path.components target).length
  | _ => 0

theorem linkLength_of_isPlain (place : Place) (plain : entry.IsPlain) : linkLength (place, entry) = 0 := by
  cases entry with
  | file content => rfl
  | directory => rfl
  | link target => exact absurd rfl (plain target)

theorem foldl_linkLength_set (plain : entry.IsPlain) (bound : Nat) (entries : List (Place × FileEntry))
    (free : ∀ present, (entries.find? (·.1 == place)).map Prod.snd = some present → present.IsPlain) :
    ((put.set place entry entries).map linkLength).foldl max bound =
      (entries.map linkLength).foldl max bound := by
  induction entries generalizing bound with
  | nil => simp [put.set, linkLength_of_isPlain place plain]
  | cons first rest ih =>
    obtain ⟨there, present⟩ := first
    rw [put.set]
    by_cases same : there = place
    · subst same
      have before := linkLength_of_isPlain there (free present (by simp))
      simp [before, linkLength_of_isPlain there plain]
    · simp only [beq_iff_eq, same, if_false, List.map_cons, List.foldl_cons]
      exact ih _ fun present found => free present (by simpa [same] using found)

theorem Free.isPlain (free : files.Free place) {present : FileEntry}
    (found : (files.entries.find? (·.1 == place)).map Prod.snd = some present) : present.IsPlain := by
  have there : files.entry? place = some present := by
    unfold entry?
    simp only [List.isEmpty_iff, free.ne_nil, if_false, found]
  rintro target rfl
  rcases free with none | ⟨content, file⟩
  · rw [there] at none; cases none
  · rw [there] at file; cases file

theorem stepBound_put (plain : entry.IsPlain) (free : files.Free place) (names : List String) :
    (files.put place entry).stepBound names = files.stepBound names := by
  have longest := foldl_linkLength_set plain 0 files.entries fun _ found => free.isPlain found
  unfold stepBound
  exact congrArg (fun longest => names.length + (greatestLinkCount + 1) * longest + 1) longest

theorem Free.ne_of_there (free : files.Free place) (found : files.entry? other = some entry)
    (noFile : ∀ content, entry ≠ .file content) : other ≠ place := by
  rintro rfl
  rcases free with none | ⟨content, file⟩
  · rw [found] at none; cases none
  · rw [found] at file
    exact noFile content (Option.some.inj file)

/-! ### Walks -/

theorem isDirectoryAt_iff : files.isDirectoryAt place ↔ files.entry? place = some .directory := by
  unfold isDirectoryAt
  split
  · next found => simp [found]
  · next other => simpa using other

def IsProper (name : String) : Prop :=
  name ≠ "." ∧ name ≠ ".."

/-- The ways in which names lead somewhere, with the bounds on steps and on links. -/
inductive Walks (files : Files) (follow : Bool) : Nat → Nat → Place → List String → Resolved → Prop where
  | arrived {fuel links : Nat} {place : Place} :
      Walks files follow (fuel + 1) links place [] ⟨place, files.entry? place⟩
  | stays {fuel links : Nat} {place : Place} {rest : List String} {found : Resolved}
      (directory : files.entry? place = some .directory) (onward : Walks files follow fuel links place rest found) :
      Walks files follow (fuel + 1) links place ("." :: rest) found
  | rises {fuel links : Nat} {place : Place} {rest : List String} {found : Resolved}
      (directory : files.entry? place = some .directory)
      (onward : Walks files follow fuel links place.dropLast rest found) :
      Walks files follow (fuel + 1) links place (".." :: rest) found
  | misses {fuel links : Nat} {place : Place} {name : String}
      (directory : files.entry? place = some .directory) (proper : IsProper name)
      (absent : files.entry? (place ++ [name]) = none) :
      Walks files follow (fuel + 1) links place [name] ⟨place ++ [name], none⟩
  | ends {fuel links : Nat} {place : Place} {name target : String}
      (directory : files.entry? place = some .directory) (proper : IsProper name)
      (there : files.entry? (place ++ [name]) = some (.link target)) (unfollowed : follow = false) :
      Walks files follow (fuel + 1) links place [name] ⟨place ++ [name], some (.link target)⟩
  | follows {fuel links : Nat} {place : Place} {name target : String} {rest : List String} {found : Resolved}
      (directory : files.entry? place = some .directory) (proper : IsProper name)
      (there : files.entry? (place ++ [name]) = some (.link target)) (beyond : (rest.isEmpty && !follow) = false)
      (named : target ≠ "")
      (onward : Walks files follow fuel links (if Path.isAbsolute target then [] else place)
        (Path.components target ++ rest) found) :
      Walks files follow (fuel + 1) (links + 1) place (name :: rest) found
  | enters {fuel links : Nat} {place : Place} {name : String} {entry : FileEntry} {rest : List String}
      {found : Resolved} (directory : files.entry? place = some .directory) (proper : IsProper name)
      (there : files.entry? (place ++ [name]) = some entry) (plain : entry.IsPlain)
      (onward : Walks files follow fuel links (place ++ [name]) rest found) :
      Walks files follow (fuel + 1) links place (name :: rest) found

theorem walks_of_walk {follow : Bool} {fuel links : Nat} {start : Place} {names : List String} {found : Resolved}
    (walked : files.walk follow fuel links start names = .ok found) :
    files.Walks follow fuel links start names found := by
  induction fuel generalizing links start names with
  | zero => rw [walk] at walked; cases walked
  | succ fuel ih =>
    cases names with
    | nil =>
      rw [walk] at walked
      · cases walked
        exact .arrived
      · nofun
    | cons name rest =>
      rw [walk] at walked
      by_cases directory : files.isDirectoryAt start
      · have there := isDirectoryAt_iff.mp directory
        simp only [directory, Bool.not_true, Bool.false_eq_true, if_false, beq_iff_eq] at walked
        by_cases stays : name = "."
        · rw [if_pos stays] at walked
          exact stays ▸ .stays there (ih walked)
        by_cases rises : name = ".."
        · rw [if_neg stays, if_pos rises] at walked
          exact rises ▸ .rises there (ih walked)
        rw [if_neg stays, if_neg rises] at walked
        have proper : IsProper name := ⟨stays, rises⟩
        split at walked
        · next absent =>
          split at walked
          · next last =>
            cases walked
            rw [List.isEmpty_iff.mp last]
            exact .misses there proper absent
          · cases walked
        · next target link =>
          by_cases last : (rest.isEmpty && !follow) = true
          · rw [if_pos last] at walked
            cases walked
            simp only [Bool.and_eq_true, List.isEmpty_iff, Bool.not_eq_true'] at last
            rw [last.1]
            exact .ends there proper link last.2
          · rw [if_neg last] at walked
            by_cases named : target = ""
            · rw [if_pos named] at walked
              cases walked
            · rw [if_neg named] at walked
              cases links with
              | zero => cases walked
              | succ links => exact .follows there proper link (by simpa using last) named (ih walked)
        · next entry plain present => exact .enters there proper present plain (ih walked)
      · simp [directory] at walked

namespace Walks

variable {follow : Bool} {fuel links : Nat} {start : Place} {names : List String} {found : Resolved}

theorem walk (walks : files.Walks follow fuel links start names found) :
    files.walk follow fuel links start names = .ok found := by
  induction walks with
  | arrived =>
    rw [Files.walk]
    nofun
  | stays directory onward ih => simp [Files.walk, isDirectoryAt_iff.mpr directory, ih]
  | rises directory onward ih => simp [Files.walk, isDirectoryAt_iff.mpr directory, ih]
  | misses directory proper absent => simp [Files.walk, isDirectoryAt_iff.mpr directory, proper.1, proper.2, absent]
  | ends directory proper there unfollowed =>
    simp [Files.walk, isDirectoryAt_iff.mpr directory, proper.1, proper.2, there, unfollowed]
  | follows directory proper there beyond named onward ih =>
    simp [Files.walk, isDirectoryAt_iff.mpr directory, proper.1, proper.2, there, beyond, named, ih]
  | @enters _ _ _ name entry rest _ directory proper there plain onward ih =>
    cases entry with
    | link target => exact absurd rfl (plain target)
    | file content => simp [Files.walk, isDirectoryAt_iff.mpr directory, proper.1, proper.2, there, ih]
    | directory => simp [Files.walk, isDirectoryAt_iff.mpr directory, proper.1, proper.2, there, ih]

/-- What a path leads to is the entry at the place. -/
theorem entry_eq (walks : files.Walks follow fuel links start names found) :
    found.entry = files.entry? found.place := by
  induction walks with
  | arrived => rfl
  | stays directory onward ih => exact ih
  | rises directory onward ih => exact ih
  | misses directory proper absent => exact absent.symm
  | ends directory proper there unfollowed => exact there.symm
  | follows directory proper there beyond named onward ih => exact ih
  | enters directory proper there plain onward ih => exact ih

/-- A path that leads to an entry leads to the same place after an entry has been put. -/
theorem put (plain : entry.IsPlain) (free : files.Free place)
    (walks : files.Walks follow fuel links start names found) (reached : found.entry ≠ none) :
    ∃ present, (files.put place entry).Walks follow fuel links start names ⟨found.place, some present⟩ := by
  have kept {other : Place} {present : FileEntry} (there : files.entry? other = some present)
      (noFile : ∀ content, present ≠ .file content) :
      Files.entry? (files.put place entry) other = some present := by
    rw [entry_put free.ne_nil, if_neg (free.ne_of_there there noFile), there]
  induction walks with
  | @arrived _ _ start =>
    obtain ⟨present, there⟩ := Option.ne_none_iff_exists'.mp reached
    have after : ∃ present, Files.entry? (files.put place entry) start = some present := by
      rw [entry_put free.ne_nil]
      split
      · exact ⟨entry, rfl⟩
      · exact ⟨present, there⟩
    obtain ⟨present, there⟩ := after
    exact ⟨present, there ▸ .arrived⟩
  | stays directory onward ih =>
    obtain ⟨present, onward⟩ := ih reached
    exact ⟨present, .stays (kept directory nofun) onward⟩
  | rises directory onward ih =>
    obtain ⟨present, onward⟩ := ih reached
    exact ⟨present, .rises (kept directory nofun) onward⟩
  | misses directory proper absent => exact absurd rfl reached
  | ends directory proper there unfollowed =>
    exact ⟨_, .ends (kept directory nofun) proper (kept there nofun) unfollowed⟩
  | follows directory proper there beyond named onward ih =>
    obtain ⟨present, onward⟩ := ih reached
    exact ⟨present, .follows (kept directory nofun) proper (kept there nofun) beyond named onward⟩
  | @enters _ _ start name between _ _ directory proper there plainBetween onward ih =>
    obtain ⟨present, onward⟩ := ih reached
    by_cases same : start ++ [name] = place
    · have replaced : Files.entry? (files.put place entry) (start ++ [name]) = some entry := by
        rw [entry_put free.ne_nil, if_pos same]
      exact ⟨present, .enters (kept directory nofun) proper replaced plain onward⟩
    · have stands : Files.entry? (files.put place entry) (start ++ [name]) = some between := by
        rw [entry_put free.ne_nil, if_neg same, there]
      exact ⟨present, .enters (kept directory nofun) proper stands plainBetween onward⟩

end Walks

theorem resolve_eq_ok_iff {follow : Bool} {found : Resolved} :
    files.resolve follow path = .ok found ↔ path ≠ "" ∧ checkNames path = .ok () ∧
      files.walk follow (files.stepBound (Path.components path)) greatestLinkCount
        (if Path.isAbsolute path then [] else files.current) (Path.components path) = .ok found := by
  unfold resolve
  by_cases empty : path = ""
  · subst empty
    exact ⟨nofun, fun ⟨named, _⟩ => absurd rfl named⟩
  · rw [if_neg (by simpa using empty)]
    simp only [bind_eq_ok_iff, ne_eq, empty, not_false_eq_true, true_and]
    exact ⟨fun ⟨(), rest⟩ => rest, fun rest => ⟨(), rest⟩⟩

theorem resolve_put (plain : entry.IsPlain) (free : files.Free place) {follow : Bool} {found : Place}
    {present : FileEntry} (resolved : files.resolve follow path = .ok ⟨found, some present⟩) :
    ∃ present', (files.put place entry).resolve follow path = .ok ⟨found, some present'⟩ := by
  obtain ⟨named, sound, walked⟩ := resolve_eq_ok_iff.mp resolved
  obtain ⟨present', walks⟩ := (walks_of_walk walked).put plain free nofun
  rw [← stepBound_put plain free] at walks
  exact ⟨present', resolve_eq_ok_iff.mpr ⟨named, sound, walks.walk⟩⟩

/-! ### Growing -/

theorem isPresent_eq_true_iff :
    files.isPresent path = .ok true ↔ ∃ place entry, files.resolve true path = .ok ⟨place, some entry⟩ := by
  unfold isPresent find
  cases resolved : files.resolve true path with
  | error fault => cases fault <;> simp [bind, Except.bind]
  | ok found =>
    obtain ⟨place, entry⟩ := found
    cases entry <;> simp [bind, Except.bind, pure, Except.pure, throw, throwThe, MonadExceptOf.throw]

/-- Every path that leads to something still does. -/
def Lasts (files after : Files) : Prop :=
  ∀ path, files.isPresent path = .ok true → after.isPresent path = .ok true

theorem Lasts.refl (files : Files) : files.Lasts files :=
  fun _ present => present

theorem Lasts.trans (left : files.Lasts between) (right : between.Lasts after) : files.Lasts after :=
  fun path present => right path (left path present)

theorem put_lasts (plain : entry.IsPlain) (free : files.Free place) : files.Lasts (files.put place entry) := by
  intro path present
  obtain ⟨found, there, resolved⟩ := isPresent_eq_true_iff.mp present
  obtain ⟨thereAfter, resolvedAfter⟩ := resolve_put plain free resolved
  exact isPresent_eq_true_iff.mpr ⟨found, thereAfter, resolvedAfter⟩

theorem resolve_entry {follow : Bool} {found : Resolved} (resolved : files.resolve follow path = .ok found) :
    found.entry = files.entry? found.place :=
  (walks_of_walk (resolve_eq_ok_iff.mp resolved).2.2).entry_eq

theorem exists_put_of_write {content : ByteArray} (written : files.write path content = .ok after) :
    ∃ found, files.resolve true path = .ok found ∧ files.Free found.place ∧
      after = files.put found.place (.file content) := by
  unfold write at written
  split at written
  · cases written
  · obtain ⟨found, resolved, last⟩ := bind_eq_ok_iff.mp written
    have there := resolve_entry resolved
    refine ⟨found, resolved, ?_⟩
    split at last
    · cases last
      exact ⟨.inl there.symm, rfl⟩
    · cases last
      exact ⟨.of_file there.symm, rfl⟩
    · cases last
    · cases last

theorem entry_of_vacant (vacant : files.vacant path = .ok place) : files.entry? place = none := by
  obtain ⟨found, resolved, free⟩ := bind_eq_ok_iff.mp vacant
  have there := resolve_entry resolved
  split at free
  · cases free
    exact there.symm
  · cases free

theorem exists_put_of_makeDirectory (made : files.makeDirectory path = .ok after) :
    ∃ place, files.vacant path = .ok place ∧ files.Free place ∧ after = files.put place .directory := by
  obtain ⟨place, vacant, last⟩ := bind_eq_ok_iff.mp made
  cases last
  exact ⟨place, vacant, .inl (entry_of_vacant vacant), rfl⟩

theorem write_lasts {content : ByteArray} (written : files.write path content = .ok after) :
    files.Lasts after := by
  obtain ⟨found, -, free, rfl⟩ := exists_put_of_write written
  exact put_lasts nofun free

theorem makeDirectory_lasts (made : files.makeDirectory path = .ok after) : files.Lasts after := by
  obtain ⟨place, -, free, rfl⟩ := exists_put_of_makeDirectory made
  exact put_lasts nofun free

/-- A directory is made together with those above it, one after the other. -/
theorem makeDirectories_rel {relation : Files → Files → Prop} (refl : ∀ files, relation files files)
    (trans : ∀ {files between after}, relation files between → relation between after → relation files after)
    (makeDirectory : ∀ {files after path}, files.makeDirectory path = .ok after → relation files after)
    (made : files.makeDirectories path = .ok after) : relation files after := by
  unfold makeDirectories at made
  generalize path.length + 1 = fuel at made
  induction fuel generalizing files after path with
  | zero => cases made
  | succ fuel ih =>
    unfold makeDirectoriesWithin at made
    split at made
    · cases made
      exact refl files
    · split at made
      · next done =>
        cases made
        exact makeDirectory done
      · split at made
        · cases made
        · obtain ⟨between, before, last⟩ := bind_eq_ok_iff.mp made
          have above := ih before
          split at last
          · next done =>
            cases last
            exact trans above (makeDirectory done)
          · split at last
            · cases last
              exact above
            · cases last
      · split at made
        · cases made
          exact refl files
        · cases made

/-- A program leaves a directory, and then one file after the other. -/
theorem depositAll_rel {relation : Files → Files → Prop} (refl : ∀ files, relation files files)
    (trans : ∀ {files between after}, relation files between → relation between after → relation files after)
    (makeDirectory : ∀ {files after path}, files.makeDirectory path = .ok after → relation files after)
    (write : ∀ {files after path content}, files.write path content = .ok after → relation files after)
    (files : Files) (directory : Option OutputDirectory) : relation files (files.depositAll directory) := by
  cases directory with
  | none => exact refl files
  | some directory =>
    show relation files (files.deposit directory)
    unfold deposit
    split
    · exact refl files
    · next made done =>
      refine trans (makeDirectory done) ?_
      clear done
      induction directory.files generalizing made with
      | nil => exact refl made
      | cons file rest ih =>
        refine trans ?_ (ih _)
        dsimp only
        split
        · next done => exact write done
        · exact refl made

end Files

/-- A compiler that takes nothing away. -/
def Compiler.Keeps (compiler : Compiler) : Prop :=
  ∀ source output outside (world : World),
    world.files.Lasts (compiler.compile source output outside world).2.files

/-- Whatever a program leaves, it only adds to what is there. -/
theorem ProcessStart.run_lasts (start : ProcessStart) (outside : Outside) (world : World) :
    world.files.Lasts (start.run outside world).2.files := by
  simp only [run]
  split
  · exact Files.depositAll_rel .refl .trans Files.makeDirectory_lasts Files.write_lasts _ _
  · exact .refl _

/-- All that is left of a start of the compiler is what its program leaves. -/
theorem Compiler.ofProgram_files (settings : Config.Compiler) (source output : String) (outside : Outside)
    (world : World) : ((ofProgram settings).compile source output outside world).2.files =
      ((start settings source output).run outside world).2.files := by
  cases ran : (start settings source output).run outside world with
  | mk result final =>
    unfold ofProgram
    dsimp only
    cases result with
    | error fault => rw [Run.bind_of_error (Run.mapError_of_error ran)]
    | ok left =>
      rw [Run.bind_of_ok (Run.mapError_of_ok ran)]
      split <;> rfl

theorem Compiler.ofProgram_keeps (settings : Config.Compiler) : (ofProgram settings).Keeps := by
  intro source output outside world
  rw [ofProgram_files]
  exact (start settings source output).run_lasts outside world

end LedgerCapture
