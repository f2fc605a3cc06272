import RegistrySchema.FileSystem.Replace
import RegistrySchema.Proofs.Catalog
import RegistrySchema.Proofs.Fallible

/-!
# Replacing a file, or leaving everything as it is

A replacement writes to a temporary file and moves it. `replace_cases` says how it can end: either
each of its parts succeeds, and then the file system is as before except for the new file at the
place where the target leads; or one of them fails, and then the file system is as before.

Two facts carry this. The name of the temporary file is fresh, so that removing it again leaves
what there was. And a path cannot lead through a file, so it leads to the same place whether the
temporary file, or the new one, is there or not (`destination_eq_ok_iff`).
-/

namespace RegistrySchema.FileSystem

variable {fs other : FileSystem} {place : Place}

/-! ## Putting and removing -/

theorem node?_put (fs : FileSystem) {place : Place} (hplace : place ≠ []) (node : Node)
    (elsewhere : Place) :
    (fs.put place node).node? elsewhere =
      if elsewhere = place then some node else fs.node? elsewhere := by
  unfold node? put
  dsimp only
  rw [Catalog.get?_put]
  by_cases hroot : elsewhere = []
  · rw [if_pos hroot, if_pos hroot, if_neg fun h : elsewhere = place => hplace (h ▸ hroot)]
  · rw [if_neg hroot, if_neg hroot]
    simp only [eq_comm]

/-- Removing what was put at a place where there was nothing leaves what there was. -/
theorem remove_put {fs : FileSystem} {place : Place} (hplace : place ∉ fs.nodes.keys)
    (first second : Node) : ((fs.put place first).put place second).remove place = fs := by
  unfold remove put
  dsimp only
  rw [Catalog.erase_put, Catalog.erase_put, Catalog.erase_of_not_mem hplace]

theorem le_foldl_max (lengths : List Nat) (bound : Nat) :
    bound ≤ lengths.foldl max bound ∧ ∀ n ∈ lengths, n ≤ lengths.foldl max bound := by
  induction lengths generalizing bound with
  | nil => simp
  | cons n lengths ih =>
    obtain ⟨hstart, hrest⟩ := ih (max bound n)
    rw [List.foldl_cons, List.forall_mem_cons]
    refine ⟨?_, ?_, hrest⟩ <;> omega

/-- A fresh name is longer than all names on the way to a place. -/
theorem freshName_not_mem {fs : FileSystem} {place : Place} (hplace : place ∈ fs.nodes.keys) :
    fs.freshName ∉ place := by
  intro hname
  -- Its padding alone is as long as the longest name.
  have hmem : fs.freshName.length ∈ fs.nodes.keys.flatten.map String.length :=
    List.mem_map_of_mem (List.mem_flatten.2 ⟨place, hplace, hname⟩)
  have hle := (le_foldl_max _ 0).2 _ hmem
  have hlength : fs.freshName.length =
      4 + (fs.nodes.keys.flatten.map String.length).foldl max 0 := by
    simp [freshName, String.length_append]
    rfl
  omega

/-- What is made under a fresh name was not there. -/
theorem createTemporary_eq_ok {directory : Path} {begun : FileSystem}
    (h : fs.createTemporary directory = .ok (place, begun)) :
    place ≠ [] ∧ place ∉ fs.nodes.keys ∧ begun = fs.put place (.file []) := by
  unfold createTemporary at h
  obtain ⟨-, -, hrest⟩ := bind_eq_ok_iff.1 h
  obtain ⟨parent, -, hrest⟩ := bind_eq_ok_iff.1 hrest
  obtain ⟨-, -, hlast⟩ := bind_eq_ok_iff.1 hrest
  cases hlast
  refine ⟨by simp, fun hmem => freshName_not_mem hmem ?_, rfl⟩
  exact List.mem_append_right _ List.mem_cons_self

/-! ## Paths do not lead through files -/

/-- File systems that differ at most at one place, at which neither has a directory. -/
structure SameBut (place : Place) (fs other : FileSystem) : Prop where
  /-- Relative paths start in the same directory. -/
  current : fs.current = other.current
  /-- At any other place there is the same. -/
  node? : ∀ elsewhere, elsewhere ≠ place → fs.node? elsewhere = other.node? elsewhere
  /-- There is no directory at the place. -/
  left : fs.node? place ≠ some .directory
  /-- Nor is there in the other file system. -/
  right : other.node? place ≠ some .directory

theorem SameBut.symm (h : SameBut place fs other) : SameBut place other fs :=
  ⟨h.current.symm, fun elsewhere hne => (h.node? elsewhere hne).symm, h.right, h.left⟩

/-- Putting a file where there is no directory. -/
theorem sameBut_put {place : Place} (hplace : place ≠ [])
    (hnode : fs.node? place ≠ some .directory) (bytes : List UInt8) :
    SameBut place fs (fs.put place (.file bytes)) where
  current := rfl
  node? elsewhere hne := by rw [node?_put fs hplace, if_neg hne]
  left := hnode
  right := by
    rw [node?_put fs hplace, if_pos rfl]
    simp

theorem wantDirectory_eq_ok_iff : fs.wantDirectory place = .ok () ↔
    fs.node? place = some .directory := by
  unfold wantDirectory
  split <;> simp_all

/-- A name in a directory has a place. -/
theorem entry_eq_ok_iff {directory : Place} {name : String} :
    fs.entry directory name = .ok place ↔ fs.node? directory = some .directory ∧
      name.utf8ByteSize ≤ maxNameLength ∧ place = directory ++ [name] := by
  unfold entry
  rw [bind_eq_ok_iff]
  constructor
  · rintro ⟨⟨⟩, hdirectory, hname⟩
    split at hname
    · cases hname
    · next hle =>
      cases hname
      exact ⟨wantDirectory_eq_ok_iff.1 hdirectory, Nat.le_of_not_lt hle, rfl⟩
  · rintro ⟨hdirectory, hle, rfl⟩
    exact ⟨(), wantDirectory_eq_ok_iff.2 hdirectory, if_neg (Nat.not_lt.2 hle)⟩

/-- Steps that end in a directory start in one. -/
theorem directory_of_walk {start last : Place} {steps : List String}
    (hwalk : fs.walk start steps = .ok last) (hlast : fs.node? last = some .directory) :
    fs.node? start = some .directory := by
  cases steps with
  | nil =>
    cases hwalk
    exact hlast
  | cons step steps =>
    rw [walk] at hwalk
    cases hentry : fs.entry start step with
    | error err =>
      rw [hentry] at hwalk
      cases hwalk
    | ok next => exact (entry_eq_ok_iff.1 hentry).1

theorem SameBut.directory (h : SameBut place fs other) {elsewhere : Place}
    (hdirectory : fs.node? elsewhere = some .directory) :
    other.node? elsewhere = some .directory := by
  have hne : elsewhere ≠ place := fun heq => h.left (heq ▸ hdirectory)
  rw [← h.node? elsewhere hne, hdirectory]

theorem SameBut.entry (h : SameBut place fs other) {directory found : Place} {name : String}
    (hentry : fs.entry directory name = .ok found) : other.entry directory name = .ok found := by
  obtain ⟨hdirectory, hname⟩ := entry_eq_ok_iff.1 hentry
  exact entry_eq_ok_iff.2 ⟨h.directory hdirectory, hname⟩

/-- Steps that end in a directory do so in both file systems. -/
theorem SameBut.walk (h : SameBut place fs other) {start last : Place} {steps : List String}
    (hwalk : fs.walk start steps = .ok last) (hlast : fs.node? last = some .directory) :
    other.walk start steps = .ok last := by
  -- By induction on the steps: a step leaves from a directory, and none is at the place.
  induction steps generalizing start with
  | nil => exact hwalk
  | cons step steps ih =>
    rw [FileSystem.walk] at hwalk ⊢
    cases hentry : fs.entry start step with
    | error err =>
      rw [hentry] at hwalk
      cases hwalk
    | ok next =>
      rw [hentry] at hwalk
      rw [h.entry hentry]
      dsimp only at hwalk ⊢
      by_cases hstay : step = "."
      · rw [if_pos hstay] at hwalk ⊢
        exact ih hwalk
      by_cases hup : step = ".."
      · rw [if_neg hstay, if_pos hup] at hwalk ⊢
        exact ih hwalk
      rw [if_neg hstay, if_neg hup] at hwalk ⊢
      split at hwalk
      · next hsome =>
        -- Nothing is reached through the place, so the next step is elsewhere.
        have hne : next ≠ place := by
          rintro rfl
          exact h.left (directory_of_walk hwalk hlast)
        rw [← h.node? next hne, if_pos hsome]
        exact ih hwalk
      · cases hwalk

theorem SameBut.trans {third : FileSystem} (h : SameBut place fs other)
    (hnext : SameBut place other third) : SameBut place fs third where
  current := h.current.trans hnext.current
  node? elsewhere hne := (h.node? elsewhere hne).trans (hnext.node? elsewhere hne)
  left := h.left
  right := hnext.right

/-- A file can be moved to a name in a directory, unless a directory has that name. -/
theorem destination_eq_ok_iff {target : Path} :
    fs.destination target = .ok place ↔ refuseLong target = .ok () ∧ ∃ name directory,
      target.steps.getLast? = some name ∧
      fs.walk (fs.start target) target.steps.dropLast = .ok directory ∧
      fs.entry directory name = .ok place ∧ ¬ (name = "." ∨ name = "..") ∧
      target.endsInSlash = false ∧ fs.node? place ≠ some .directory := by
  unfold destination
  rw [bind_eq_ok_iff]
  constructor
  · rintro ⟨⟨⟩, hlong, hrest⟩
    refine ⟨hlong, ?_⟩
    split at hrest
    · cases hrest
    · next name hname =>
      obtain ⟨directory, hwalk, hrest⟩ := bind_eq_ok_iff.1 hrest
      obtain ⟨found, hentry, hrest⟩ := bind_eq_ok_iff.1 hrest
      simp only [Bool.or_eq_true, decide_eq_true_eq] at hrest
      split at hrest
      · cases hrest
      · next hdots =>
        split at hrest
        · cases hrest
        · next hslash =>
          split at hrest
          · cases hrest
          · next hnode =>
            cases hrest
            exact ⟨name, directory, hname, hwalk, hentry, hdots, Bool.eq_false_iff.2 hslash, hnode⟩
  · rintro ⟨hlong, name, directory, hname, hwalk, hentry, hdots, hslash, hnode⟩
    refine ⟨(), hlong, ?_⟩
    rw [hname]
    refine bind_eq_ok_iff.2 ⟨directory, hwalk, bind_eq_ok_iff.2 ⟨place, hentry, ?_⟩⟩
    simp only [Bool.or_eq_true, decide_eq_true_eq]
    rw [if_neg hdots, if_neg (Bool.eq_false_iff.1 hslash)]

/-- A file can be moved to the same place in both file systems. -/
theorem SameBut.destination (h : SameBut place fs other) {target : Path} {found : Place}
    (hfound : fs.destination target = .ok found) : other.destination target = .ok found := by
  rw [destination_eq_ok_iff] at hfound ⊢
  obtain ⟨hlong, name, directory, hname, hwalk, hentry, hdots, hslash, hnode⟩ := hfound
  have hstart : other.start target = fs.start target := by
    rw [FileSystem.start, FileSystem.start, h.current]
  have hdirectory : fs.node? directory = some .directory := (entry_eq_ok_iff.1 hentry).1
  refine ⟨hlong, name, directory, hname, ?_, h.entry hentry, hdots, hslash, ?_⟩
  · rw [hstart]
    exact h.walk hwalk hdirectory
  · by_cases hsame : found = place
    · rw [hsame]
      exact h.right
    · rwa [← h.node? found hsame]

theorem ne_nil_of_destination {target : Path} (h : fs.destination target = .ok place) :
    place ≠ [] := by
  obtain ⟨-, name, directory, -, -, hentry, -⟩ := destination_eq_ok_iff.1 h
  obtain ⟨-, -, rfl⟩ := entry_eq_ok_iff.1 hentry
  simp

theorem walk_append {start middle : Place} {steps : List String}
    (h : fs.walk start steps = .ok middle) (more : List String) :
    fs.walk start (steps ++ more) = fs.walk middle more := by
  induction steps generalizing start with
  | nil =>
    cases h
    rfl
  | cons step steps ih =>
    rw [List.cons_append, walk]
    rw [walk] at h
    split at h
    · cases h
    · split at h
      · rw [if_pos ‹_›]
        exact ih h
      · rw [if_neg ‹_›]
        split at h
        · rw [if_pos ‹_›]
          exact ih h
        · rw [if_neg ‹_›]
          split at h
          · rw [if_pos ‹_›]
            exact ih h
          · cases h

/-- What was moved to where a path leads is found there. -/
theorem lookup_put {target : Path} (h : fs.destination target = .ok place) (bytes : List UInt8) :
    (fs.put place (.file bytes)).lookup target = .ok (.file bytes) := by
  have hplace := ne_nil_of_destination h
  obtain ⟨-, -, -, -, -, -, -, -, hnode⟩ := destination_eq_ok_iff.1 h
  -- The way to the place is the same with the new file there.
  have hthere := (sameBut_put hplace hnode bytes).destination h
  obtain ⟨hlong, name, directory, hname, hwalk, hentry, hdots, hslash, -⟩ :=
    destination_eq_ok_iff.1 hthere
  obtain ⟨hdot, hdots⟩ := not_or.1 hdots
  have hput : (fs.put place (.file bytes)).node? place = some (.file bytes) := by
    rw [node?_put fs hplace, if_pos rfl]
  have hsteps : target.steps = target.steps.dropLast ++ [name] :=
    (List.dropLast_append_getLast? name hname).symm
  have hlast : (fs.put place (.file bytes)).walk directory [name] = .ok place := by
    rw [walk, hentry]
    dsimp only
    rw [if_neg hdot, if_neg hdots, hput, Option.isSome_some, if_pos rfl, walk]
  unfold lookup
  refine bind_eq_ok_iff.2 ⟨(), hlong, bind_eq_ok_iff.2 ⟨place, ?_, ?_⟩⟩
  · rw [hsteps, walk_append hwalk, hlast]
  · rw [hput]
    dsimp only
    rw [hslash]
    rfl

/-! ## The whole of a replacement -/

/-- A temporary file that is being filled makes no difference elsewhere. -/
theorem sameBut_temporary {temporary : Place} (htemporary : temporary ≠ [])
    (hfresh : temporary ∉ fs.nodes.keys) (bytes : List UInt8) :
    SameBut temporary fs ((fs.put temporary (.file [])).put temporary (.file bytes)) := by
  have hnode : fs.node? temporary ≠ some .directory := by
    have hnone : fs.nodes.get? temporary = none :=
      Option.not_isSome_iff_eq_none.1 (mt Catalog.get?_isSome_iff.1 hfresh)
    rw [node?, if_neg htemporary, hnone]
    simp
  have hbegun := sameBut_put htemporary hnode []
  exact hbegun.trans (sameBut_put htemporary hbegun.right bytes)

/-- Moving the temporary file leaves the new file where the target leads, and nothing else. -/
theorem move_temporary {temporary : Place} (htemporary : temporary ≠ [])
    (hfresh : temporary ∉ fs.nodes.keys) (bytes : List UInt8) (target : Path) :
    (∃ place, fs.destination target = .ok place ∧
      ((fs.put temporary (.file [])).put temporary (.file bytes)).move temporary bytes target =
        .ok (fs.put place (.file bytes))) ∨
    ((∃ err, fs.destination target = .error err) ∧ ∃ err,
      ((fs.put temporary (.file [])).put temporary (.file bytes)).move temporary bytes target =
        .error err) := by
  have hsame := sameBut_temporary htemporary hfresh bytes
  unfold move
  rw [remove_put hfresh]
  cases hdestination : fs.destination target with
  | ok place =>
    rw [hsame.destination hdestination]
    exact Or.inl ⟨place, rfl, rfl⟩
  | error err =>
    -- The errors need not be the same: a path may name the temporary file as a directory.
    cases hfilled : ((fs.put temporary (.file [])).put temporary (.file bytes)).destination
        target with
    | ok place =>
      rw [hsame.symm.destination hfilled] at hdestination
      cases hdestination
    | error found => exact Or.inr ⟨⟨err, rfl⟩, found, rfl⟩

/-- A replacement succeeds with all its parts and puts the new file to where the target leads, or it
fails with one of them and changes nothing. -/
theorem replace_cases (fs : FileSystem) (faults : Faults) (target : Path)
    (write : Sink → Sink.Written) :
    (∃ place,
      (∃ made, (IoError.raise faults.create >>= fun _ => fs.createTemporary target.parent) =
        .ok made) ∧
      (write faults.device).result = .ok () ∧
      (IoError.raise faults.move >>= fun _ => fs.destination target) = .ok place ∧
      fs.replace faults target write =
        (.ok (), fs.put place (.file (write faults.device).sink.received))) ∨
    (((∃ err, (IoError.raise faults.create >>= fun _ => fs.createTemporary target.parent) =
        .error err) ∨
      (∃ err, (write faults.device).result = .error err) ∨
      ∃ err, (IoError.raise faults.move >>= fun _ => fs.destination target) = .error err) ∧
      ∃ err, fs.replace faults target write = (.error err, fs)) := by
  unfold replace
  cases hmade : IoError.raise faults.create >>= fun _ => fs.createTemporary target.parent with
  | error err => exact Or.inr ⟨Or.inl ⟨err, rfl⟩, err, rfl⟩
  | ok made =>
    obtain ⟨temporary, begun⟩ := made
    obtain ⟨-, -, hcreated⟩ := bind_eq_ok_iff.1 hmade
    obtain ⟨htemporary, hfresh, rfl⟩ := createTemporary_eq_ok hcreated
    dsimp only
    generalize (write faults.device).sink.received = bytes
    have hremove := remove_put hfresh (.file []) (.file bytes)
    -- The parts in their order; each failure takes the temporary file away again.
    cases hresult : (write faults.device).result with
    | error err => exact Or.inr ⟨Or.inr (Or.inl ⟨err, rfl⟩), err, congrArg (_, ·) hremove⟩
    | ok =>
      cases hmove : IoError.raise faults.move with
      | error err => exact Or.inr ⟨Or.inr (Or.inr ⟨err, rfl⟩), err, congrArg (_, ·) hremove⟩
      | ok =>
        rcases move_temporary htemporary hfresh bytes target with
          ⟨place, hplace, hmoved⟩ | ⟨⟨err, hplace⟩, found, hmoved⟩
        · refine Or.inl ⟨place, ⟨_, rfl⟩, rfl, hplace, ?_⟩
          dsimp only [bind, Except.bind]
          rw [hmoved]
        · refine Or.inr ⟨Or.inr (Or.inr ⟨err, hplace⟩), found, ?_⟩
          dsimp only [bind, Except.bind]
          rw [hmoved]
          exact congrArg (_, ·) hremove

end RegistrySchema.FileSystem
