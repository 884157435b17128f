import LedgerCapture.Proofs.Gateway.Growth

/-!
Compilers that keep to their output directory. A program that leaves at most this directory, with files in it, is
such a compiler.
-/
namespace LedgerCapture

/-- A compiler that changes nothing but what is at its output directory and below. The directory is given by a name
in a directory with an absolute path. -/
structure Compiler.Confined (compiler : Compiler) (outside : Outside) : Prop where
  around : ∀ source directory name (world : World) place entry, Path.isAbsolute directory = true → Path.IsName name →
    world.files.IsTree → world.files.resolve false (Path.join directory name) = .ok ⟨place, entry⟩ →
    ∀ other, ¬ place <+: other →
      (compiler.compile source (Path.join directory name) outside world).2.files.entry? other =
        world.files.entry? other
  isTree : ∀ source output (world : World), world.files.IsTree →
    (compiler.compile source output outside world).2.files.IsTree

namespace Files

variable {before files after : Files} {place : Place} {entry : Option FileEntry} {path name : String}

/-- While files are put into a new directory: it stands, no name in it is a link, and nothing around it changes. -/
structure Fills (before : Files) (place : Place) (files : Files) : Prop where
  stands : before.Stands place files
  unlinked : ∀ name target, files.entry? (place ++ [name]) ≠ some (.link target)
  around : ∀ other, ¬ place <+: other → files.entry? other = before.entry? other

theorem Opens.fills_put (opens : before.Opens path place) : before.Fills place (before.put place .directory) where
  stands := opens.stands_put
  unlinked name target := by
    have absent := opens.tree.absent_below opens.absent (List.prefix_append place [name])
    rw [entry_put opens.place_ne_nil, if_neg (by simp), absent]
    nofun
  around other apart := by
    rw [entry_put opens.place_ne_nil, if_neg]
    rintro rfl
    exact apart (List.prefix_refl other)

theorem Fills.write {content : ByteArray} (fills : before.Fills place files) (opens : before.Opens path place)
    (isName : Path.IsName name) (proper : IsProper name)
    (written : files.write (Path.join path name) content = .ok after) : before.Fills place after := by
  have grows := write_grows written
  obtain ⟨found, resolved, free, rfl⟩ := exists_put_of_write written
  have checked := (resolve_eq_ok_iff.mp resolved).2.1
  rw [opens.resolve_join fills.stands isName proper checked fun _ => fills.unlinked name] at resolved
  cases resolved
  have kept {other : Place} (apart : other ≠ place ++ [name]) :
      Files.entry? (files.put (place ++ [name]) (.file content)) other = files.entry? other := by
    rw [entry_put free.ne_nil, if_neg apart]
  exact {
    stands := fills.stands.grow grows
    unlinked := fun other target => by
      by_cases same : place ++ [other] = place ++ [name]
      · rw [entry_put free.ne_nil, if_pos same]
        nofun
      · rw [kept same]
        exact fills.unlinked other target
    around := fun other apart => by
      rw [kept, fills.around other apart]
      rintro rfl
      exact apart (List.prefix_append place [name]) }

/-- A program that leaves its files in a new directory changes nothing around it. -/
theorem deposit_around {directory : OutputDirectory} (tree : files.IsTree)
    (absolute : Path.isAbsolute directory.path = true) (bare : Path.trimmed directory.path = directory.path)
    (named : ∀ file ∈ directory.files, Path.IsName file.1 ∧ IsProper file.1)
    (resolved : files.resolve false directory.path = .ok ⟨place, entry⟩) (other : Place) (apart : ¬ place <+: other) :
    Files.entry? (files.deposit directory) other = files.entry? other := by
  unfold deposit
  split
  · rfl
  · next made done =>
    obtain ⟨found, vacant, -, rfl⟩ := exists_put_of_makeDirectory done
    have opens : files.Opens directory.path found := ⟨tree, absolute, vacant⟩
    have again := vacant_eq_ok_iff.mp vacant
    rw [bare, ite_self, resolved] at again
    cases again
    refine Fills.around ?_ other apart
    refine List.foldlRecOn (motive := files.Fills place) directory.files _ opens.fills_put ?_
    intro between fills file listed
    obtain ⟨isName, proper⟩ := named file listed
    split
    · next written => exact fills.write opens isName proper written
    · exact fills

end Files

/-! ### Compiler programs -/

/-- A program that leaves no other directory than the one that it is told, with files right in it, is confined. -/
theorem Compiler.ofProgram_confined {settings : Config.Compiler} {outside : Outside}
    (leaves : ∀ journal source output left directory,
      outside.process journal (start settings source output) = .ok left → left.directory = some directory →
      directory.path = output ∧ ∀ file ∈ directory.files, Path.IsName file.1 ∧ Files.IsProper file.1) :
    (ofProgram settings).Confined outside where
  around source directory name world place entry absolute isName tree resolved other apart := by
    have nonempty : directory ≠ "" := by
      rintro rfl
      cases absolute
    rw [ofProgram_files, ProcessStart.run]
    cases ran : outside.process world.journal (start settings source (Path.join directory name)) with
    | error fault => rfl
    | ok left =>
      cases made : left.directory with
      | none =>
        simp only [made]
        rfl
      | some deposited =>
        obtain ⟨same, named⟩ := leaves _ _ _ _ _ ran made
        simp only [made]
        rw [← same] at resolved
        refine Files.deposit_around tree ?_ ?_ named resolved other apart
        · rw [same]
          exact Path.isAbsolute_join absolute name
        · rw [same]
          exact Path.trimmed_join isName nonempty
  isTree source output world tree := by
    rw [ofProgram_files]
    exact ((start settings source output).run_spares outside world).isTree tree

end LedgerCapture
