import BitcodeCache.Proofs.Store.Reading
import BitcodeCache.Proofs.Store.Steps

/-!
# Stores at the same time

However the steps of any stores are mixed, and wherever some of them end, each place that entries
are stored at shows what was there at first or the whole entry of the store that renamed to it
last. What carries this is `Inv`: what stands in a temporary file, with what the file still lacks,
is the encoded entry of the one store that has it, so only a whole entry is renamed.
-/

namespace BitcodeCache

open Disk

namespace Store

variable {ι : Type} (requests : ι → Request) (start : Disk)

/-- The place where a store puts its entry. -/
def target (i : ι) : Location := (requests i).path.location start.workingDir

/-- The store that renamed to a place last, given those that have renamed, the last one first. -/
def last? (renamed : List ι) (loc : Location) : Option ι :=
  renamed.find? fun i => target requests start i == loc

/-- The content that a place shows: the entry of the store that renamed to it last, and what was
there at first if none has. -/
def shown (renamed : List ι) (loc : Location) : Option Bytes :=
  match last? requests start renamed loc with
  | none => start.file? loc
  | some i => (Entry.encode (requests i).artifact (requests i).fingerprint).toOption

/-! ## The invariant -/

/-- A place is no store's target, and no other store's temporary file is there. -/
structure Private (now : State ι) (i : ι) (loc : Location) : Prop where
  apart : ∀ k, target requests start k ≠ loc
  unshared : ∀ j, j ≠ i → ∀ {temporary rest},
    (now.phase j).temporary? = some (temporary, rest) → temporary.location start.workingDir ≠ loc

/-- The bytes in a store's temporary file are the encoded entry up to those that it lacks. -/
def Partly (disk : Disk) (i : ι) (temporary : Path) (rest : Bytes) : Prop :=
  ∃ written, Entry.encode (requests i).artifact (requests i).fingerprint = .ok (written ++ rest) ∧
    disk.file? (temporary.location start.workingDir) = some written

/-- What holds while stores are under way: temporary files are private and hold their part of an
entry, and targets show what they should. -/
structure Inv (now : State ι) : Prop where
  keeps : KeepsDirectories start now.disk
  isPrivate : ∀ i {temporary rest}, (now.phase i).temporary? = some (temporary, rest) →
    Private requests start now i (temporary.location start.workingDir)
  partly : ∀ i {temporary rest}, (now.phase i).temporary? = some (temporary, rest) →
    Partly requests start now.disk i temporary rest
  targets : ∀ k, now.disk.file? (target requests start k) =
    shown requests start now.renamed (target requests start k)
  encoded : ∀ k ∈ now.renamed,
    ∃ bytes, Entry.encode (requests k).artifact (requests k).fingerprint = .ok bytes
  located : ∀ k ∈ now.renamed, ∃ loc, now.disk.locate (requests k).path = .ok loc

variable {requests} {start} {now : State ι} {i : ι}

/-- The invariant holds before any store has started. -/
theorem Inv.initial : Inv requests start (State.initial start) where
  keeps := ⟨rfl, fun found => ⟨_, found⟩⟩
  isPrivate := fun _ _ _ => nofun
  partly := fun _ _ _ => nofun
  targets := fun _ => rfl
  encoded := fun _ => nofun
  located := fun _ => nofun

/-- After a rename the target shows the entry of that store. -/
theorem shown_cons_of_eq {loc : Location} (h : target requests start i = loc) (renamed : List ι) :
    shown requests start (i :: renamed) loc =
      (Entry.encode (requests i).artifact (requests i).fingerprint).toOption := by
  simp [shown, last?, h]

/-- A rename elsewhere does not change what a place shows. -/
theorem shown_cons_of_ne {loc : Location} (h : target requests start i ≠ loc) (renamed : List ι) :
    shown requests start (i :: renamed) loc = shown requests start renamed loc := by
  simp [shown, last?, h]

/-- A change at a store's own place leaves every other place as it was. -/
theorem Private.becomes {loc : Location} (own : Private requests start now i loc)
    {node : Option Node} {disk' : Disk} (becomes : now.disk.Becomes loc node disk')
    (other : Location) :
    disk'.file? other = now.disk.file? other ∨ Private requests start now i other := by
  by_cases here : other = loc
  · exact .inr (here ▸ own)
  · exact .inl (file?_congr (becomes.others other here))

/-- The store that renamed to a place last has its whole entry there. -/
theorem Inv.read_last (inv : Inv requests start now) {loc : Location} {k : ι}
    (last : last? requests start now.renamed loc = some k) :
    ∃ bytes, Entry.encode (requests k).artifact (requests k).fingerprint = .ok bytes ∧
      shown requests start now.renamed loc = some bytes ∧
      now.disk.read (requests k).path = .ok bytes := by
  have renamed : k ∈ now.renamed := List.mem_of_find?_eq_some last
  have here : target requests start k = loc := by simpa using List.find?_some last
  obtain ⟨bytes, encoded⟩ := inv.encoded k renamed
  have whole : shown requests start now.renamed loc = some bytes := by
    rw [shown, last]
    dsimp only
    rw [encoded]
    rfl
  have there := (inv.targets k).trans (here ▸ whole)
  refine ⟨bytes, encoded, whole, read_eq_ok_iff.2 ⟨inv.located k renamed, ?_⟩⟩
  rw [inv.keeps.workingDir]
  exact file?_eq_some_iff.1 there

/-! ## Steps -/

variable [DecidableEq ι]

/-- The stores with temporary files after a step are the one that did it, if it has one then, and
the others that had one before. -/
theorem temporary?_update {phase : ι → Phase} {new : Phase} {j : ι} {held : Path × Bytes}
    (h : (Function.update phase i new j).temporary? = some held) :
    j = i ∧ new.temporary? = some held ∨ j ≠ i ∧ (phase j).temporary? = some held := by
  by_cases same : j = i
  · subst same
    rw [Function.update_self] at h
    exact .inl ⟨rfl, h⟩
  · rw [Function.update_of_ne same] at h
    exact .inr ⟨same, h⟩

/-- Steps that change private places only, and leave a temporary file as it should be if they leave
one, keep the invariant. -/
theorem Inv.advance (inv : Inv requests start now) {phase : Phase} {disk' : Disk}
    (keeps : KeepsDirectories now.disk disk')
    (changes : ∀ loc, disk'.file? loc = now.disk.file? loc ∨ Private requests start now i loc)
    (held : ∀ {temporary rest}, phase.temporary? = some (temporary, rest) →
      Private requests start now i (temporary.location start.workingDir) ∧
        Partly requests start disk' i temporary rest) :
    Inv requests start (now.advance i phase disk') where
  keeps := inv.keeps.trans keeps
  isPrivate := by
    intro j _ _ after
    rcases temporary?_update after with ⟨rfl, has⟩ | ⟨other, has⟩
    · refine ⟨(held has).1.apart, fun k other _ _ after' => ?_⟩
      rcases temporary?_update after' with ⟨rfl, _⟩ | ⟨_, has'⟩
      · exact absurd rfl other
      · exact (held has).1.unshared k other has'
    · refine ⟨(inv.isPrivate j has).apart, fun k away _ _ after' => ?_⟩
      rcases temporary?_update after' with ⟨rfl, has'⟩ | ⟨_, has'⟩
      · exact ((held has').1.unshared j other has).symm
      · exact (inv.isPrivate j has).unshared k away has'
  partly := by
    intro j temporary rest after
    rcases temporary?_update after with ⟨rfl, has⟩ | ⟨other, has⟩
    · exact (held has).2
    · obtain ⟨written, encoded, there⟩ := inv.partly j has
      rcases changes (temporary.location start.workingDir) with kept | isPrivate
      · exact ⟨written, encoded, kept.trans there⟩
      · exact absurd rfl (isPrivate.unshared j other has)
  targets := by
    intro k
    rcases changes (target requests start k) with kept | isPrivate
    · exact kept.trans (inv.targets k)
    · exact absurd rfl (isPrivate.apart k)
  encoded := inv.encoded
  located := by
    intro k renamed
    obtain ⟨loc, located⟩ := inv.located k renamed
    exact ⟨loc, keeps.locate located⟩

/-- Steps that leave the disk as it is keep the invariant if they take no temporary file. -/
theorem Inv.still (inv : Inv requests start now) {phase : Phase}
    (held : ∀ {temporary rest}, phase.temporary? = some (temporary, rest) →
      (now.phase i).temporary? = some (temporary, rest)) :
    Inv requests start (now.advance i phase now.disk) :=
  inv.advance ⟨rfl, fun found => ⟨_, found⟩⟩ (fun _ => .inl rfl) fun has =>
    ⟨inv.isPrivate i (held has), inv.partly i (held has)⟩

/-- A new temporary file keeps the invariant if it is no store's target. -/
theorem Inv.creates (inv : Inv requests start now) {name : String} {bytes : Bytes}
    (encodes : (requests i).Encodes name bytes) {temporary : Path} {disk' : Disk}
    (apart : ∀ k, (requests k).path.location now.disk.workingDir ≠
      temporary.location now.disk.workingDir)
    (created : createAt now.disk temporary = .ok disk') :
    Inv requests start (now.advance i (.filling temporary bytes) disk') := by
  obtain ⟨loc, names, free, becomes⟩ := createAt_spec created
  rw [inv.keeps.workingDir] at apart
  have place : loc = temporary.location start.workingDir := by
    rw [names.eq_location, inv.keeps.workingDir]
  have own : Private requests start now i loc := by
    refine ⟨place ▸ apart, fun j _ other rest has same => ?_⟩
    -- another store's temporary file there would be a file where nothing was
    obtain ⟨_, _, there⟩ := inv.partly j has
    rw [same, file?, free] at there
    cases there
  refine inv.advance (becomes.keepsDirectories (by simp [free])) (own.becomes becomes) ?_
  rintro _ _ ⟨⟩
  exact ⟨place ▸ own, [], encodes.encoded, file?_eq_some_iff.2 ⟨_, place ▸ becomes.there⟩⟩

/-- Writing a chunk keeps the invariant, as the chunk is the next part of the entry. -/
theorem Inv.writes (inv : Inv requests start now) {temporary : Path} {chunk rest : Bytes}
    {disk' : Disk} (filling : now.phase i = .filling temporary (chunk ++ rest))
    (written : now.disk.append temporary chunk = .ok disk') :
    Inv requests start (now.advance i (.filling temporary rest) disk') := by
  have has : (now.phase i).temporary? = some (temporary, chunk ++ rest) := by rw [filling]; rfl
  have own := inv.isPrivate i has
  obtain ⟨before, encoded, there⟩ := inv.partly i has
  obtain ⟨content, time, found, becomes⟩ := edit_spec written
  rw [inv.keeps.workingDir] at found becomes
  obtain rfl : content = before := by
    rw [file?, found] at there
    exact Option.some.inj there
  refine inv.advance (becomes.keepsDirectories (by simp [found])) (own.becomes becomes) ?_
  rintro _ _ ⟨⟩
  refine ⟨own, content ++ chunk, ?_, file?_eq_some_iff.2 ⟨_, becomes.there⟩⟩
  rw [encoded, List.append_assoc]

/-- Giving up keeps the invariant, as only the store's own temporary file goes. -/
theorem Inv.fails (inv : Inv requests start now) {temporary : Path} {rest : Bytes}
    (has : (now.phase i).temporary? = some (temporary, rest)) :
    Inv requests start (now.advance i .ended (discard now.disk temporary)) := by
  have own := inv.isPrivate i has
  unfold discard
  split
  · rename_i removed
    obtain ⟨loc, content, time, names, found, rfl⟩ := remove_eq_ok_iff.1 removed
    have free : ∀ time, now.disk.get? loc ≠ some (.directory time) := by simp [found]
    have becomes : now.disk.Becomes loc none _ :=
      becomes_erase (ne_nil_of_not_directory now.disk free)
    rw [← inv.keeps.workingDir, ← names.eq_location] at own
    apply inv.advance (becomes.keepsDirectories free) (own.becomes becomes)
    rintro _ _ ⟨⟩
  · apply inv.still
    rintro _ _ ⟨⟩

/-- A flushed temporary file holds a whole entry, and takes it to one place. -/
theorem Inv.renames (inv : Inv requests start now) {temporary : Path} {disk' : Disk}
    (flushed : now.phase i = .flushed temporary)
    (moved : now.disk.rename temporary (requests i).path = .ok disk') :
    Inv requests start (now.finish i (.ok (), disk')) := by
  have has : (now.phase i).temporary? = some (temporary, []) := by rw [flushed]; rfl
  have own := inv.isPrivate i has
  obtain ⟨bytes, encoded, there⟩ := inv.partly i has
  rw [List.append_nil] at encoded
  rw [← inv.keeps.workingDir] at there
  obtain ⟨time, found⟩ := file?_eq_some_iff.1 there
  have keeps := rename_keepsDirectories moved found
  obtain ⟨⟨loc, names⟩, _, mid, gone, put⟩ := rename_spec moved found
  rw [inv.keeps.workingDir] at gone put
  -- only the temporary file goes, and only the target comes
  have others {other : Location} (away : other ≠ temporary.location start.workingDir)
      (away' : other ≠ target requests start i) : disk'.file? other = now.disk.file? other :=
    file?_congr ((put.others other away').trans (gone.others other away))
  refine ⟨inv.keeps.trans keeps, ?isPrivate, ?partly, ?targets, ?encoded, ?located⟩
  case isPrivate =>
    intro j _ _ after
    rcases temporary?_update after with ⟨_, ⟨⟩⟩ | ⟨_, has⟩
    refine ⟨(inv.isPrivate j has).apart, fun k away _ _ after' => ?_⟩
    rcases temporary?_update after' with ⟨_, ⟨⟩⟩ | ⟨_, has'⟩
    exact (inv.isPrivate j has).unshared k away has'
  case partly =>
    intro j _ _ after
    rcases temporary?_update after with ⟨_, ⟨⟩⟩ | ⟨other, has⟩
    obtain ⟨written, encoded, there⟩ := inv.partly j has
    have away' := (inv.isPrivate j has).apart i
    exact ⟨written, encoded, (others (own.unshared j other has) away'.symm).trans there⟩
  case targets =>
    intro k
    show disk'.file? (target requests start k) =
      shown requests start (i :: now.renamed) (target requests start k)
    by_cases same : target requests start i = target requests start k
    · rw [shown_cons_of_eq same, encoded, ← same]
      exact file?_eq_some_iff.2 ⟨time, put.there⟩
    · rw [shown_cons_of_ne same, others (own.apart k) (Ne.symm same), inv.targets k]
  case encoded =>
    intro k renamed
    rcases List.mem_cons.1 renamed with rfl | renamed
    · exact ⟨bytes, encoded⟩
    · exact inv.encoded k renamed
  case located =>
    intro k renamed
    rcases List.mem_cons.1 renamed with rfl | renamed
    · exact ⟨loc, (names.mono keeps).locate⟩
    · obtain ⟨loc, located⟩ := inv.located k renamed
      exact ⟨loc, keeps.locate located⟩

/-- Each step of any store keeps the invariant. -/
theorem Inv.step {next : State ι} (inv : Inv requests start now) (step : Step requests now next) :
    Inv requests start next := by
  cases step with
  | directory _ _ _ made =>
    have grows := makeDir_grows made
    apply inv.advance grows.keepsDirectories (fun loc => .inl (grows.file?_eq loc))
    rintro _ _ ⟨⟩
  | creates _ encodes _ apart created => exact inv.creates encodes apart created
  | writes filling written => exact inv.writes filling written
  | syncs full =>
    apply inv.still
    rintro _ _ ⟨⟩
    rw [full]
    rfl
  | renames flushed moved => exact inv.renames flushed moved
  | fails has => exact inv.fails has
  | stops i =>
    apply inv.still
    rintro _ _ ⟨⟩

/-- A run of steps keeps the invariant, however the stores take turns. -/
theorem Inv.run {next : State ι} (inv : Inv requests start now) (steps : Steps requests now next) :
    Inv requests start next := by
  induction steps with
  | refl => exact inv
  | tail _ step ih => exact ih.step step

/-! ## What readers see -/

/-- No half-written entry is ever visible. After any steps of any stores each target shows what was
there at first, or the whole entry of the store that renamed to it last, and lookups at its paths
answer as for that content. A path that led to the target still does. The last store's own path
does in any case, and lookups at it answer for its one entry. -/
theorem steps_show_whole (requests : ι → Request) (start : Disk) {now : State ι}
    (reached : Steps requests (State.initial start) now) (i : ι) :
    let place := target requests start i
    let content := shown requests start now.renamed place
    now.disk.file? place = content ∧
    (∀ path, path.location start.workingDir = place → ∀ expected,
      tryLoad now.disk path expected =
        match now.disk.locate path, content with
        | .ok _, some bytes => Entry.load bytes expected
        | _, _ => .error .notFound) ∧
    (∀ path, start.locate path = .ok place → now.disk.locate path = .ok place) ∧
    ∀ k, last? requests start now.renamed place = some k →
      ∃ bytes, Entry.encode (requests k).artifact (requests k).fingerprint = .ok bytes ∧
        content = some bytes ∧ now.disk.read (requests k).path = .ok bytes ∧
        ((requests k).fingerprint.toolchain.length ≤ Signature.maxLength →
          bytes.length < 2 ^ 63 → ∃ header, header.fingerprint = (requests k).fingerprint ∧
            ∀ expected, tryLoad now.disk (requests k).path expected =
              match expected.firstMismatch? (requests k).fingerprint with
              | some field => .error (.stale field)
              | none => .ok ⟨header, (requests k).artifact⟩) := by
  intro place content
  have inv := Inv.initial.run reached
  refine ⟨inv.targets i, ?_, fun path located => inv.keeps.locate located, ?_⟩
  · intro path leads expected
    rw [tryLoad_eq_load]
    cases located : now.disk.locate path with
    | error cause => rfl
    | ok loc =>
      have here : loc = place := by
        rw [eq_of_locate located, inv.keeps.workingDir, leads]
      rw [here]
      dsimp only
      rw [show now.disk.file? place = content from inv.targets i]
      cases content <;> rfl
  · intro k last
    obtain ⟨bytes, encoded, whole, readable⟩ := inv.read_last last
    refine ⟨bytes, encoded, whole, readable, fun limit small => ?_⟩
    exact (Disk.holds_of_read readable encoded limit small).tryLoad_eq

end Store

namespace Store.Crossing

open Format

/-- A disk with a file that is no entry. -/
def disk : Disk where
  nodes := [(["x.oBCC"], .file [1, 2, 3] .epoch)]

/-- Two stores of the sample entry in the place of that file. -/
def requests : Bool → Request := fun _ =>
  ⟨⟨"x.oBCC"⟩, Sample.fingerprint, Sample.artifact⟩

/-- The part of a temporary file's name that tells the two stores apart. -/
def tag (i : Bool) : String := if i then "2" else "1"

def temporary (i : Bool) : Path :=
  (directoryOf (requests i).path).join ⟨temporaryName "x.oBCC" (tag i)⟩

/-- The disk once a store's temporary file has this content. -/
def put (i : Bool) (content : Bytes) (disk : Disk) : Disk :=
  disk.set [temporaryName "x.oBCC" (tag i)] (.file content .epoch)

def half : Bytes := Sample.entry.take 100

def halves : Disk := disk |> put false [] |> put true [] |> put false half |> put true half

/-- One store has stopped with a half of its bytes written, and the other has renamed. -/
def crossed : Disk :=
  ((halves |> put true Sample.entry).erase [temporaryName "x.oBCC" (tag true)]).set ["x.oBCC"]
    (.file Sample.entry .epoch)

theorem encodes (i : Bool) : (requests i).Encodes "x.oBCC" Sample.entry where
  named := by
    show (⟨"x.oBCC"⟩ : Path).fileName? = _
    decide +kernel
  encoded := Entry.encode_sample

theorem apart (i : Bool) :
    ∀ k, (requests k).path.location [] ≠ (temporary i).location [] := by
  revert i
  decide +kernel

/-- The first store stops halfway, and the second goes on to its end. -/
theorem steps : ∃ now : State Bool, Steps requests (State.initial disk) now ∧
    now.disk = crossed ∧ now.renamed = [true] := by
  have created : createAt disk (temporary false) = .ok (put false [] disk) := by decide +kernel
  have created' : createAt (put false [] disk) (temporary true) =
      .ok (disk |> put false [] |> put true []) := by decide +kernel
  have written : (disk |> put false [] |> put true []).append (temporary false) half =
      .ok (disk |> put false [] |> put true [] |> put false half) := by decide +kernel
  have written' : (disk |> put false [] |> put true [] |> put false half).append (temporary true)
      half = .ok halves := by decide +kernel
  have full : halves.append (temporary true) (Sample.entry.drop 100) =
      .ok (put true Sample.entry halves) := by decide +kernel
  have moved : (put true Sample.entry halves).rename (temporary true) ⟨"x.oBCC"⟩ =
      .ok crossed := by decide +kernel
  have split : Sample.entry = half ++ Sample.entry.drop 100 :=
    (List.take_append_drop 100 _).symm
  have run : Steps requests (State.initial disk) _ :=
    .single (.creates rfl (encodes false) rfl (apart false) created)
  have run := run.tail (.creates rfl (encodes true) rfl (apart true) created')
  have run := run.tail (.writes (i := false) (congrArg _ split) written)
  have run := run.tail (.writes (i := true) (congrArg _ split) written')
  have run := run.tail (.stops false)
  have run := run.tail (.writes (i := true) (congrArg _ (List.append_nil _).symm) full)
  have run := run.tail (.syncs (i := true) rfl)
  exact ⟨_, run.tail (.renames (i := true) rfl moved), rfl, rfl⟩

end Store.Crossing

open Store Format in
/-- The half that was written is still there, beside the whole entry that lookups find. -/
theorem Store.steps_show_whole_crossed : ∃ now : State Bool,
    Steps Crossing.requests (State.initial Crossing.disk) now ∧
    now.disk.file? [".x.oBCC.1.tmp"] = some (Sample.entry.take 100) ∧
    now.disk.file? ["x.oBCC"] = some Sample.entry ∧
    ∃ header, tryLoad now.disk ⟨"x.oBCC"⟩ Sample.fingerprint =
      .ok ⟨header, Sample.artifact⟩ := by
  obtain ⟨now, reached, ended, renamed⟩ := Crossing.steps
  obtain ⟨whole, _, _, last⟩ := steps_show_whole Crossing.requests Crossing.disk reached true
  have isLast : last? Crossing.requests Crossing.disk now.renamed
      (target Crossing.requests Crossing.disk true) = some true := by
    rw [renamed]
    decide +kernel
  obtain ⟨bytes, encoded, shows, readable, lookups⟩ := last true isLast
  obtain rfl : bytes = Sample.entry :=
    Except.ok.inj (encoded.symm.trans (Crossing.encodes true).encoded)
  obtain ⟨header, _, lookup⟩ := lookups (by decide +kernel) (by decide +kernel)
  have same : Sample.fingerprint.firstMismatch? Sample.fingerprint = none := by
    decide +kernel
  refine ⟨now, reached, ?_, ?_, header, ?_⟩
  · rw [ended]
    decide +kernel
  · exact whole.trans shows
  · have found := lookup Sample.fingerprint
    rw [show (Crossing.requests true).fingerprint = Sample.fingerprint from rfl, same] at found
    exact found

end BitcodeCache
