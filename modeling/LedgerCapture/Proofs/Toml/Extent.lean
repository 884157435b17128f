import LedgerCapture.Proofs.Toml.Strings
import LedgerCapture.Proofs.Toml.Tree

/-!
What a document can bring into its tree. Every text that stands as a value was read from a part of the document that is
longer by its marks, and what one statement brought the later ones leave as it is.
-/
namespace LedgerCapture.Toml

/-- Whether there is room in a text for a string with this content. -/
def Fits (content : String) (text : List Char) : Prop :=
  content.toList.length + 2 ≤ text.length

theorem Fits.of_suffix {content : String} {rest text : List Char} (fits : Fits content rest) (suffix : rest <:+ text) :
    Fits content text :=
  Nat.le_trans fits suffix.length_le

/-! ### Keys and words -/

section Words

variable {text rest : List Char} {fuel : Nat} {key : String} {path : List String} {content hidden : String}

theorem simpleKey_suffix (found : simpleKey fuel text = some (key, rest)) : rest <:+ text := by
  unfold simpleKey at found
  split at found
  · obtain ⟨inside, rfl, -⟩ := basicString_extent found
    exact ⟨'"' :: (inside ++ ['"']), by simp⟩
  · obtain ⟨inside, rfl, -⟩ := literalString_extent found
    exact ⟨'\'' :: (inside ++ ['\'']), by simp⟩
  · split at found
    · cases found
    · cases found
      exact List.dropWhile_suffix _

theorem keyPath_suffix (found : keyPath fuel text = some (path, rest)) : rest <:+ text := by
  induction fuel generalizing text path with
  | zero => cases found
  | succ fuel ih =>
    simp only [keyPath, Option.bind_eq_bind, Option.bind_eq_some_iff] at found
    obtain ⟨⟨key, behind⟩, first, found⟩ := found
    have here : skipBlanks behind <:+ text :=
      ((skipBlanks_suffix _).trans (simpleKey_suffix first)).trans (skipBlanks_suffix _)
    split at found
    · next dotted =>
      obtain ⟨⟨path, rest⟩, later, same⟩ := Option.bind_eq_some_iff.mp found
      cases same
      rw [dotted] at here
      exact ((ih later).trans (List.suffix_cons _ _)).trans here
    · cases found
      exact here

theorem splitWord_suffix (text : List Char) : (splitWord text).2 <:+ text := by
  have behind : text.dropWhile isWordChar <:+ text := List.dropWhile_suffix _
  unfold splitWord
  dsimp only
  split
  · next time =>
    split
    · rw [time] at behind
      exact ((List.dropWhile_suffix _).trans (List.suffix_cons _ _)).trans behind
    · exact behind
  · exact behind

/-- No text stands in what a word denotes. -/
theorem not_holds_wordValue? {word : List Char} {value : Toml} (found : wordValue? word = some value) :
    ¬ value.Holds hidden content := by
  unfold wordValue? at found
  intro holds
  split at found
  · cases found
    cases holds
  · split at found
    · cases found
      cases holds
    · simp only [Option.orElse_eq_orElse, Option.orElse_eq_or, Option.or_eq_some_iff, Option.map_eq_some_iff] at found
      rcases found with (⟨number, -, rfl⟩ | ⟨-, number, -, rfl⟩) | ⟨-, text, -, rfl⟩ <;> cases holds

end Words

/-! ### Values -/

/-- A part of the text was read as a value, and there is room in it for every text of the value that is not an old
one. -/
structure Brings (hidden : String) (old : String → Prop) (value : Toml) (text rest : List Char) : Prop where
  suffix : rest <:+ text
  fits : ∀ content, value.Holds hidden content → old content ∨ Fits content text

structure Bounded (hidden : String) (fuel : Nat) : Prop where
  value {depth : Nat} {text rest : List Char} {result : Toml} (read : value depth fuel text = some (result, rest)) :
    Brings hidden (fun _ => False) result text rest
  items {depth : Nat} {done : List Toml} {text rest : List Char} {result : Toml}
    (read : arrayItems depth done fuel text = some (result, rest)) :
    Brings hidden (fun content => ∃ item ∈ done, item.Holds hidden content) result text rest
  entries {depth : Nat} {done : Entries} {text rest : List Char} {result : Toml}
    (read : inlineEntries depth done fuel text = some (result, rest)) :
    Brings hidden (fun content => (Node.table .header done).Holds hidden content) result text rest

section Values

variable {hidden : String} {fuel depth : Nat} {text rest : List Char} {result : Toml}

theorem Brings.mono {old new : String → Prop} {longer : List Char} (brings : Brings hidden old result text rest)
    (suffix : text <:+ longer) (kept : ∀ content, old content → new content ∨ Fits content longer) :
    Brings hidden new result longer rest :=
  ⟨brings.suffix.trans suffix, fun content holds =>
    (brings.fits content holds).elim (kept content) fun fits => .inr (fits.of_suffix suffix)⟩

theorem Bounded.value_succ (bounded : Bounded hidden fuel)
    (read : Toml.value depth (fuel + 1) text = some (result, rest)) :
    Brings hidden (fun _ => False) result text rest := by
  have string {text : List Char}
      (read : (stringValue fuel text).map (fun found => (Toml.string found.1, found.2)) = some (result, rest)) :
      Brings hidden (fun _ => False) result text rest := by
    obtain ⟨⟨content, behind⟩, found, same⟩ := Option.map_eq_some_iff.mp read
    cases same
    obtain ⟨written, rfl, bound⟩ := stringValue_extent found
    refine ⟨List.suffix_append _ _, fun other holds => .inr ?_⟩
    cases holds
    dsimp only [Fits] at bound ⊢
    rw [List.length_append]
    omega
  rw [value.eq_def] at read
  dsimp only at read
  split at read
  · split at read
    · cases read
    · refine (bounded.items read).mono (List.suffix_cons _ _) fun content holds => ?_
      obtain ⟨item, member, -⟩ := holds
      cases member
  · split at read
    · cases read
    · refine (bounded.entries read).mono (List.suffix_cons _ _) fun content holds => ?_
      cases holds with
      | entry member shown holds => cases member
  · exact string read
  · exact string read
  · obtain ⟨value, found, same⟩ := Option.map_eq_some_iff.mp read
    cases same
    exact ⟨splitWord_suffix _, fun content holds => absurd holds (not_holds_wordValue? found)⟩

theorem Bounded.items_succ {done : List Toml} (bounded : Bounded hidden fuel)
    (read : arrayItems depth done (fuel + 1) text = some (result, rest)) :
    Brings hidden (fun content => ∃ item ∈ done, item.Holds hidden content) result text rest := by
  have start := skipLines_suffix fuel text
  rw [arrayItems.eq_def] at read
  dsimp only at read
  split at read
  · next closed =>
    cases read
    rw [closed] at start
    refine ⟨(List.suffix_cons _ _).trans start, fun content holds => .inl ?_⟩
    cases holds with
    | item member holds => exact ⟨_, List.mem_reverse.mp member, holds⟩
  · obtain ⟨⟨item, behind⟩, found, read⟩ := Option.bind_eq_some_iff.mp read
    have brought := bounded.value found
    have onward : skipLines fuel behind <:+ text := ((skipLines_suffix _ _).trans brought.suffix).trans start
    have known (content : String) (holds : ∃ other ∈ item :: done, other.Holds hidden content) :
        (∃ other ∈ done, other.Holds hidden content) ∨ Fits content text := by
      obtain ⟨other, member, holds⟩ := holds
      rcases List.mem_cons.mp member with rfl | member
      · exact .inr (((brought.fits content holds).resolve_left id).of_suffix start)
      · exact .inl ⟨other, member, holds⟩
    split at read
    · next comma =>
      rw [comma] at onward
      exact (bounded.items read).mono ((List.suffix_cons _ _).trans onward) known
    · next closed =>
      cases read
      rw [closed] at onward
      refine ⟨(List.suffix_cons _ _).trans onward, fun content holds => known content ?_⟩
      cases holds with
      | item member holds => exact ⟨_, List.mem_reverse.mp member, holds⟩
    · cases read

theorem Bounded.entries_succ {done : Entries} (bounded : Bounded hidden fuel)
    (read : inlineEntries depth done (fuel + 1) text = some (result, rest)) :
    Brings hidden (fun content => (Node.table .header done).Holds hidden content) result text rest := by
  have start := skipLines_suffix fuel text
  have complete {entries : Entries} {content : String}
      (holds : (ofEntries (entriesToToml entries)).Holds hidden content) :
      (Node.table .header entries).Holds hidden content :=
    @holds_of_holds_toToml _ _ (.table .header entries) holds
  rw [inlineEntries.eq_def] at read
  dsimp only at read
  split at read
  · next closed =>
    cases read
    rw [closed] at start
    exact ⟨(List.suffix_cons _ _).trans start, fun content holds => .inl (complete holds)⟩
  · obtain ⟨⟨path, behind⟩, key, read⟩ := Option.bind_eq_some_iff.mp read
    have keyed := (keyPath_suffix key).trans start
    dsimp only at read
    split at read
    · next equals =>
      obtain ⟨⟨entry, behind⟩, found, read⟩ := Option.bind_eq_some_iff.mp read
      obtain ⟨⟨origin, grown⟩, added, read⟩ := Option.bind_eq_some_iff.mp read
      have brought := bounded.value found
      have valued := (skipBlanks_suffix _).trans ((List.suffix_cons _ _).trans keyed)
      have onward : skipLines fuel behind <:+ text := ((skipLines_suffix _ _).trans brought.suffix).trans valued
      have known (content : String) (holds : (Node.table .header grown).Holds hidden content) :
          (Node.table .header done).Holds hidden content ∨ Fits content text := by
        have grows := (grows_of_addEntry added).withOrigin .header
        rcases grows.holds holds with ⟨value, same, holds⟩ | ⟨node, same, holds⟩
        · cases same
          exact .inr (((brought.fits content holds).resolve_left id).of_suffix valued)
        · cases same
          exact .inl holds
      dsimp only at read
      split at read
      · next comma =>
        rw [comma] at onward
        exact (bounded.entries read).mono ((List.suffix_cons _ _).trans onward) known
      · next closed =>
        cases read
        rw [closed] at onward
        exact ⟨(List.suffix_cons _ _).trans onward, fun content holds => known content (complete holds)⟩
      · cases read
    · cases read

theorem bounded (hidden : String) (fuel : Nat) : Bounded hidden fuel := by
  induction fuel with
  | zero => exact ⟨nofun, nofun, nofun⟩
  | succ fuel ih => exact ⟨ih.value_succ, ih.items_succ, ih.entries_succ⟩

end Values

/-! ### Statements -/

/-- What the statements of a text make of a tree: what stands in it stays, and there is room in the text for every text
that is new. -/
structure Continues (hidden : String) (root : Entries) (text : List Char) (final : Entries) : Prop where
  stands : ∀ leaf path, (Node.table .header root).Stands leaf path → (Node.table .header final).Stands leaf path
  holds : ∀ content, (Node.table .header final).Holds hidden content →
    (Node.table .header root).Holds hidden content ∨ Fits content text

section Statements

variable {hidden : String} {fuel : Nat} {header : List String} {root grown final : Entries} {text rest : List Char}

/-- One statement, and those after it. -/
theorem Continues.after {added : Option Toml} (grows : Grows added (some (.table .header root)) (.table .header grown))
    (fits : ∀ value content, added = some value → value.Holds hidden content → Fits content text)
    (suffix : rest <:+ text) (continues : Continues hidden grown rest final) : Continues hidden root text final := by
  constructor
  · intro leaf path stands
    exact continues.stands leaf path (grows.stands rfl stands)
  · intro content holds
    rcases continues.holds content holds with holds | later
    · rcases grows.holds holds with ⟨value, given, holds⟩ | ⟨node, same, holds⟩
      · exact .inr (fits value content given holds)
      · cases same
        exact .inl holds
    · exact .inr (later.of_suffix suffix)

theorem continues_of_statements (read : statements header root fuel text = some final) :
    Continues hidden root text final := by
  induction fuel generalizing header root text with
  | zero => cases read
  | succ fuel ih =>
    have start := skipLines_suffix fuel text
    rw [statements.eq_def] at read
    dsimp only at read
    split at read
    · cases read
      exact ⟨fun _ _ stands => stands, fun _ holds => .inl holds⟩
    · next double =>
      obtain ⟨⟨path, behind⟩, key, read⟩ := Option.bind_eq_some_iff.mp read
      dsimp only at read
      split at read
      · obtain ⟨rest, line, read⟩ := Option.bind_eq_some_iff.mp read
        obtain ⟨grown, opened, read⟩ := Option.bind_eq_some_iff.mp read
        have onward : rest <:+ text := by
          rw [double] at start
          exact (((((afterLine?_suffix line).trans (List.suffix_cons _ _)).trans (List.suffix_cons _ _)).trans
            (keyPath_suffix key)).trans ((List.suffix_cons _ _).trans (List.suffix_cons _ _))).trans start
        exact (ih read).after (grows_of_openElement opened) (fun _ _ given => by cases given) onward
      · cases read
    · next single =>
      obtain ⟨⟨path, behind⟩, key, read⟩ := Option.bind_eq_some_iff.mp read
      dsimp only at read
      split at read
      · obtain ⟨rest, line, read⟩ := Option.bind_eq_some_iff.mp read
        obtain ⟨grown, opened, read⟩ := Option.bind_eq_some_iff.mp read
        have onward : rest <:+ text := by
          rw [single] at start
          exact ((((afterLine?_suffix line).trans (List.suffix_cons _ _)).trans
            (keyPath_suffix key)).trans (List.suffix_cons _ _)).trans start
        exact (ih read).after (grows_of_openTable opened) (fun _ _ given => by cases given) onward
      · cases read
    · obtain ⟨⟨path, behind⟩, key, read⟩ := Option.bind_eq_some_iff.mp read
      dsimp only at read
      split at read
      · obtain ⟨⟨entry, behind⟩, found, read⟩ := Option.bind_eq_some_iff.mp read
        obtain ⟨rest, line, read⟩ := Option.bind_eq_some_iff.mp read
        obtain ⟨⟨origin, grown⟩, changed, read⟩ := Option.bind_eq_some_iff.mp read
        have brought := (bounded hidden fuel).value found
        have valued := (skipBlanks_suffix _).trans ((List.suffix_cons _ _).trans ((keyPath_suffix key).trans start))
        have grows := (grows_of_changeAt (fun _ _ _ _ => grows_of_addEntry) changed).withOrigin .header
        refine (ih read).after grows ?_ (((afterLine?_suffix line).trans brought.suffix).trans valued)
        rintro value content ⟨rfl⟩ holds
        exact ((brought.fits content holds).resolve_left id).of_suffix valued
      · cases read

end Statements

end LedgerCapture.Toml
