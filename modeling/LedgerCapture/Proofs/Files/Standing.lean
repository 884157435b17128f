import LedgerCapture.Proofs.Files.Tree

/-!
A directory that stands while the tree around it grows. Its path is found again as long as nothing on the way to
it is taken away, whatever is put into the tree in the meantime.
-/
namespace LedgerCapture

/-- Entries that lead the same way: files, whatever they hold, directories, and links to the same path. -/
inductive FileEntry.Like : FileEntry → FileEntry → Prop where
  | file {content other : ByteArray} : Like (.file content) (.file other)
  | directory : Like .directory .directory
  | link {target : String} : Like (.link target) (.link target)

namespace FileEntry.Like

variable {first second third : FileEntry}

theorem refl (entry : FileEntry) : Like entry entry := by
  cases entry with
  | file content => exact .file
  | directory => exact .directory
  | link target => exact .link

theorem trans (left : Like first second) (right : Like second third) : Like first third := by
  cases left with
  | file =>
    cases right
    exact .file
  | directory => exact right
  | link => exact right

theorem isPlain (like : Like first second) (plain : first.IsPlain) : second.IsPlain := by
  cases like with
  | file => nofun
  | directory => nofun
  | link => exact plain

end FileEntry.Like

namespace Files

variable {files before between after : Files} {place other root : Place} {entry : FileEntry} {path name : String}

/-! ### What stays at a place -/

/-- What is at the place stays, but for the content of a file. -/
def Keeps (files after : Files) (place : Place) : Prop :=
  ∀ entry, files.entry? place = some entry → ∃ later, after.entry? place = some later ∧ entry.Like later

theorem Keeps.of_eq (same : after.entry? place = files.entry? place) : files.Keeps after place :=
  fun entry there => ⟨entry, same.trans there, .refl entry⟩

theorem Keeps.trans (left : files.Keeps between place) (right : between.Keeps after place) :
    files.Keeps after place := by
  intro entry there
  obtain ⟨second, thereSecond, like⟩ := left entry there
  obtain ⟨third, thereThird, likeThird⟩ := right second thereSecond
  exact ⟨third, thereThird, like.trans likeThird⟩

theorem Keeps.directory (keeps : files.Keeps after place) (there : files.entry? place = some .directory) :
    after.entry? place = some .directory := by
  obtain ⟨later, thereAfter, like⟩ := keeps _ there
  cases like
  exact thereAfter

theorem Keeps.link {target : String} (keeps : files.Keeps after place)
    (there : files.entry? place = some (.link target)) : after.entry? place = some (.link target) := by
  obtain ⟨later, thereAfter, like⟩ := keeps _ there
  cases like
  exact thereAfter

theorem put_keeps (free : files.Free place) (same : ∀ content, files.entry? place = some (.file content) →
    ∃ later, entry = .file later) (other : Place) : files.Keeps (files.put place entry) other := by
  by_cases here : other = place
  · subst here
    intro present there
    rcases free with none | ⟨content, file⟩
    · rw [none] at there
      cases there
    · obtain ⟨later, rfl⟩ := same content file
      rw [file] at there
      cases there
      exact ⟨.file later, by rw [entry_put (Free.of_file file).ne_nil, if_pos rfl], .file⟩
  · exact .of_eq (by rw [entry_put free.ne_nil, if_neg here])

/-- What is there stays, and nothing is left in the air. -/
structure Grows (files after : Files) : Prop where
  keeps : ∀ place, files.Keeps after place
  isTree : files.IsTree → after.IsTree

theorem Grows.of_eq (same : after = files) : files.Grows after :=
  same ▸ ⟨fun _ => .of_eq rfl, id⟩

theorem Grows.trans (left : files.Grows between) (right : between.Grows after) : files.Grows after :=
  ⟨fun place => (left.keeps place).trans (right.keeps place), fun tree => right.isTree (left.isTree tree)⟩

theorem Grows.refl (files : Files) : files.Grows files :=
  .of_eq rfl

theorem write_grows {content : ByteArray} (written : files.write path content = .ok after) : files.Grows after where
  keeps := by
    obtain ⟨found, -, free, rfl⟩ := exists_put_of_write written
    exact put_keeps free fun _ _ => ⟨content, rfl⟩
  isTree tree := tree.write written

theorem makeDirectory_grows (made : files.makeDirectory path = .ok after) : files.Grows after where
  keeps := by
    obtain ⟨place, vacant, free, rfl⟩ := exists_put_of_makeDirectory made
    have absent := entry_of_vacant vacant
    exact put_keeps free fun content file => nomatch absent.symm.trans file
  isTree tree := tree.makeDirectory made

/-! ### Taking away -/

theorem entry_retain {chosen : Place → Bool} (nonempty : other ≠ []) :
    Files.entry? (files.retain chosen) other = if chosen other then files.entry? other else none := by
  simp only [retain, entry?, List.isEmpty_iff, nonempty, if_false]
  cases stays : chosen other with
  | false =>
    rw [if_neg Bool.false_ne_true, Option.map_eq_none_iff, List.find?_eq_none]
    intro present member same
    obtain ⟨-, taken⟩ := List.mem_filter.mp member
    rw [beq_iff_eq.mp same, stays] at taken
    cases taken
  | true =>
    rw [if_pos rfl, List.find?_filter]
    refine congrArg (fun wanted => (files.entries.find? wanted).map Prod.snd) (funext fun present => ?_)
    by_cases same : present.1 = other
    · simp [same, stays]
    · simp [same]

/-- A hindered removal takes what lies below the place, but for what is kept and what this lies in. -/
theorem entry_removeTreeBut {kept : Place → Bool} (nonempty : place ≠ []) :
    Files.entry? (files.removeTreeBut kept place) other =
      if place <+: other ∧ files.holds kept other = false then none else files.entry? other := by
  by_cases top : other = []
  · subst top
    rw [if_neg (by simp [nonempty])]
    rfl
  · rw [removeTreeBut, entry_retain top]
    by_cases taken : place <+: other ∧ files.holds kept other = false
    · rw [if_pos taken, if_neg (by simpa using taken)]
    · rw [if_neg taken, if_pos (by simpa [← List.isPrefixOf_iff_prefix, imp_iff_not_or] using taken)]

def longestLink (files : Files) : Nat :=
  (files.entries.map linkLength).foldl max 0

theorem stepBound_eq (files : Files) (names : List String) :
    files.stepBound names = names.length + (greatestLinkCount + 1) * files.longestLink + 1 :=
  rfl

theorem le_foldl_max (lengths : List Nat) (bound : Nat) :
    bound ≤ lengths.foldl max bound ∧ ∀ length ∈ lengths, length ≤ lengths.foldl max bound := by
  induction lengths generalizing bound with
  | nil => exact ⟨Nat.le_refl _, nofun⟩
  | cons first rest ih =>
    obtain ⟨least, each⟩ := ih (max bound first)
    refine ⟨Nat.le_trans (Nat.le_max_left ..) least, List.forall_mem_cons.mpr ⟨?_, each⟩⟩
    exact Nat.le_trans (Nat.le_max_right ..) least

theorem length_le_longestLink {target : String} (there : files.entry? place = some (.link target)) :
    (Path.components target).length ≤ files.longestLink := by
  unfold entry? at there
  split at there
  · cases there
  · obtain ⟨⟨found, entry⟩, present, rfl⟩ := Option.map_eq_some_iff.mp there
    have listed := List.mem_of_find?_eq_some present
    exact (le_foldl_max _ 0).2 _ (List.mem_map_of_mem (f := linkLength) listed)

/-- The way to a place where nothing was can be gone again, and on from there, in every tree that keeps the rest. -/
theorem Walks.onto (tree : before.IsTree) {follow : Bool} {fuel links : Nat} {start : Place} {names more : List String}
    {reached found : Resolved} (walks : before.Walks false fuel links start names reached)
    (arrives : reached = ⟨root, none⟩) (absent : before.entry? root = none)
    (keeps : ∀ other, ¬ root <+: other → before.Keeps after other)
    (onward : ∀ fuel links place name, place ++ [name] = root → IsProper name →
      after.entry? place = some .directory →
      after.Walks follow (fuel + more.length + 2) links place (name :: more) found)
    (present : before.entry? start ≠ none) {steps : Nat}
    (enough : names.length + more.length + links * after.longestLink + 1 ≤ steps) :
    after.Walks follow steps links start (names ++ more) found := by
  -- What was there is not below the place, for there nothing was.
  have kept {other : Place} (there : before.entry? other ≠ none) : before.Keeps after other :=
    keeps other fun below => there (tree.absent_below absent below)
  induction walks generalizing steps with
  | @arrived _ _ start =>
    obtain ⟨rfl, -⟩ := Resolved.mk.inj arrives
    exact absurd absent present
  | @stays fuel links start rest reached directory way ih =>
    obtain _ | steps := steps
    · omega
    · rw [List.length_cons] at enough
      exact .stays ((kept present).directory directory) (ih arrives present (by omega))
  | @rises fuel links start rest reached directory way ih =>
    obtain _ | steps := steps
    · omega
    · rw [List.length_cons] at enough
      exact .rises ((kept present).directory directory) (ih arrives (tree.dropLast present) (by omega))
  | @misses fuel links start name directory proper none =>
    obtain ⟨same, -⟩ := Resolved.mk.inj arrives
    have least : more.length + 2 ≤ steps := by
      rw [List.length_singleton] at enough
      omega
    obtain ⟨spare, rfl⟩ := Nat.exists_eq_add_of_le' least
    exact onward spare links start name same proper ((kept present).directory directory)
  | ends directory proper there unfollowed => cases (Resolved.mk.inj arrives).2
  | @follows fuel links start name target rest reached directory proper there beyond named way ih =>
    obtain _ | steps := steps
    · omega
    · have link : before.entry? (start ++ [name]) ≠ none := by
        rw [there]
        nofun
      have thereAfter := (kept link).link there
      have short := length_le_longestLink thereAfter
      have begin : before.entry? (if Path.isAbsolute target then [] else start) ≠ none := by
        split
        · nofun
        · exact present
      have rest_ne : ((rest ++ more).isEmpty && !follow) = false := by
        cases rest with
        | nil => cases beyond
        | cons next rest => rfl
      refine .follows ((kept present).directory directory) proper thereAfter rest_ne named ?_
      show after.Walks follow steps links _ (Path.components target ++ (rest ++ more)) found
      rw [← List.append_assoc]
      refine ih arrives begin ?_
      rw [List.length_cons, Nat.add_mul] at enough
      rw [List.length_append]
      omega
  | @enters fuel links start name between rest reached directory proper there plain way ih =>
    obtain _ | steps := steps
    · omega
    · have entered : before.entry? (start ++ [name]) ≠ none := by
        rw [there]
        nofun
      obtain ⟨later, thereAfter, like⟩ := kept entered _ there
      rw [List.length_cons] at enough
      exact .enters ((kept present).directory directory) proper thereAfter (like.isPlain plain)
        (ih arrives entered (by omega))

theorem Walks.of_dot {follow : Bool} {fuel links : Nat} {start : Place} {reached : Resolved}
    (walks : files.Walks follow fuel links start ["."] reached) : reached = ⟨start, some .directory⟩ := by
  generalize dot : ["."] = names at walks
  cases walks with
  | arrived => cases dot
  | stays directory onward =>
    obtain ⟨-, rfl⟩ := List.cons.inj dot
    cases onward
    rw [directory]
  | rises directory onward => exact absurd (List.cons.inj dot).1 (by decide)
  | misses directory proper absent => exact absurd (List.cons.inj dot).1.symm proper.1
  | ends directory proper there unfollowed => exact absurd (List.cons.inj dot).1.symm proper.1
  | follows directory proper there beyond named onward => exact absurd (List.cons.inj dot).1.symm proper.1
  | enters directory proper there plain onward => exact absurd (List.cons.inj dot).1.symm proper.1

/-- A path that starts at the root of a tree and leads to a place where nothing is yet. -/
structure Opens (files : Files) (path : String) (place : Place) : Prop where
  tree : files.IsTree
  absolute : Path.isAbsolute path = true
  vacant : files.vacant path = .ok place

namespace Opens

variable (opens : before.Opens path place)
include opens

theorem absent : before.entry? place = none :=
  entry_of_vacant opens.vacant

theorem place_ne_nil : place ≠ [] := by
  rintro rfl
  cases opens.absent

/-- The root is no place where nothing is. -/
theorem trimmed_ne : Path.trimmed path ≠ "" := by
  intro empty
  have resolved := vacant_eq_ok_iff.mp opens.vacant
  rw [empty, if_pos (by rfl)] at resolved
  obtain ⟨-, -, walked⟩ := resolve_eq_ok_iff.mp resolved
  rw [if_pos opens.absolute, Path.components_of_root opens.absolute empty] at walked
  cases (walks_of_walk walked).of_dot

/-- How the path leads to the place. -/
theorem walks : checkNames (Path.trimmed path) = .ok () ∧ ∃ fuel,
    before.Walks false fuel greatestLinkCount [] (Path.components (Path.trimmed path)) ⟨place, none⟩ := by
  have resolved := vacant_eq_ok_iff.mp opens.vacant
  rw [if_neg (by simpa using opens.trimmed_ne)] at resolved
  obtain ⟨-, checked, walked⟩ := resolve_eq_ok_iff.mp resolved
  rw [if_pos (Path.isAbsolute_trimmed opens.absolute opens.trimmed_ne)] at walked
  exact ⟨checked, _, walks_of_walk walked⟩

/-- Any path that goes on from there can be gone in every tree that keeps the rest. -/
theorem resolve {follow : Bool} {long : String} {more : List String} {found : Resolved}
    (keeps : ∀ other, ¬ place <+: other → before.Keeps after other)
    (absolute : Path.isAbsolute long = true) (checked : checkNames long = .ok ())
    (names : Path.components long = Path.components (Path.trimmed path) ++ more)
    (onward : ∀ fuel links parent name, parent ++ [name] = place → IsProper name →
      after.entry? parent = some .directory →
      after.Walks follow (fuel + more.length + 2) links parent (name :: more) found) :
    after.resolve follow long = .ok found := by
  obtain ⟨-, fuel, walks⟩ := opens.walks
  have nonempty : long ≠ "" := by
    rintro rfl
    cases absolute
  have enough : (Path.components (Path.trimmed path)).length + more.length +
      greatestLinkCount * after.longestLink + 1 ≤ after.stepBound (Path.components long) := by
    rw [stepBound_eq, names, List.length_append, Nat.add_mul]
    omega
  have gone := walks.onto opens.tree rfl opens.absent keeps onward nofun enough
  rw [← names] at gone
  rw [resolve_eq_ok_iff, if_pos absolute]
  exact ⟨nonempty, checked, gone.walk⟩

end Opens

/-! ### While it stands -/

/-- The directory at the place is there, and around it nothing is missing. -/
structure Stands (before : Files) (place : Place) (files : Files) : Prop where
  tree : files.IsTree
  directory : files.entry? place = some .directory
  keeps : ∀ other, ¬ place <+: other → before.Keeps files other

theorem Stands.grow (stands : before.Stands place files) (grows : files.Grows after) : before.Stands place after where
  tree := grows.isTree stands.tree
  directory := (grows.keeps place).directory stands.directory
  keeps other apart := (stands.keeps other apart).trans (grows.keeps other)

/-- Whatever is done below a name in the directory leaves it standing. -/
theorem Stands.within (stands : before.Stands place files) (tree : after.IsTree)
    (apart : ∀ other, ¬ place ++ [name] <+: other → after.entry? other = files.entry? other) :
    before.Stands place after where
  tree := tree
  directory := by
    rw [apart place fun below => ?_]
    · exact stands.directory
    · have longer := below.length_le
      rw [List.length_append, List.length_singleton] at longer
      omega
  keeps other outside := by
    refine (stands.keeps other outside).trans (.of_eq (apart other fun below => ?_))
    exact outside ((List.prefix_append place [name]).trans below)

theorem Stands.enters {follow : Bool} {fuel links : Nat} {parent : Place} {more : List String} {found : Resolved}
    (stands : before.Stands place files) (last : parent ++ [name] = place) (proper : IsProper name)
    (directory : files.entry? parent = some .directory) (onward : files.Walks follow fuel links place more found) :
    files.Walks follow (fuel + 1) links parent (name :: more) found := by
  subst last
  exact .enters directory proper stands.directory nofun onward

namespace Opens

variable (opens : before.Opens path place)
include opens

theorem stands_put : before.Stands place (before.put place .directory) where
  tree := opens.tree.put (resolve_above opens.tree (vacant_eq_ok_iff.mp opens.vacant)) opens.place_ne_nil
  directory := by rw [entry_put opens.place_ne_nil, if_pos rfl]
  keeps other _ := put_keeps (.inl opens.absent) (fun _ file => nomatch opens.absent.symm.trans file) other

theorem checkNames_join (isName : Path.IsName name) (noZero : ∀ c ∈ name.toList, c.toNat ≠ 0)
    (short : name.utf8ByteSize ≤ 255) : checkNames (Path.join path name) = .ok () :=
  Files.checkNames_join isName noZero short opens.trimmed_ne opens.walks.1

section

variable (stands : before.Stands place files)
include stands

/-- Its path leads to it. -/
theorem find : files.find path = .ok (place, .directory) := by
  have checked := checkNames_of_trimmed opens.trimmed_ne opens.walks.1
  have resolved : files.resolve true path = .ok ⟨place, some .directory⟩ := by
    rcases Path.components_eq_trimmed opens.trimmed_ne with same | dotted
    · refine opens.resolve stands.keeps opens.absolute checked (same.trans (List.append_nil _).symm)
        fun fuel links parent name last proper directory => stands.enters last proper directory ?_
      exact stands.directory ▸ .arrived
    · refine opens.resolve stands.keeps opens.absolute checked dotted
        fun fuel links parent name last proper directory => stands.enters last proper directory ?_
      exact .stays stands.directory (stands.directory ▸ .arrived)
  rw [Files.find, resolved]
  rfl

/-- A name that is joined to its path leads into it, unless it is a link that is followed. -/
theorem resolve_join {follow : Bool} (isName : Path.IsName name) (proper : IsProper name)
    (checked : checkNames (Path.join path name) = .ok ())
    (unlinked : follow = true → ∀ target, files.entry? (place ++ [name]) ≠ some (.link target)) :
    files.resolve follow (Path.join path name) = .ok ⟨place ++ [name], files.entry? (place ++ [name])⟩ := by
  refine opens.resolve stands.keeps (Path.isAbsolute_join opens.absolute name) checked
    (Path.components_join isName opens.trimmed_ne) fun fuel links parent last same lastProper directory =>
      stands.enters same lastProper directory ?_
  cases there : files.entry? (place ++ [name]) with
  | none => exact .misses stands.directory proper there
  | some entry =>
    cases entry with
    | link target =>
      cases follow with
      | false => exact .ends stands.directory proper there rfl
      | true => exact absurd there (unlinked rfl target)
    | file content => exact .enters stands.directory proper there nofun (there ▸ .arrived)
    | directory => exact .enters stands.directory proper there nofun (there ▸ .arrived)

end

end Opens

end Files

end LedgerCapture
