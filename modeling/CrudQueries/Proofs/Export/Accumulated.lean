/-
  CrudQueries.Proofs.Export.Accumulated — what exports one after the other come to.

  An exporter keeps the records, the errors and the warnings of all its exports, so what one comes to is of those before
  it too (`calls_accumulate`): a path is listed once for each export that wrote a file there, in what is returned and in
  the inventory on disk, and after one that failed none succeeds. An export is told of alone exactly if no other before
  it has left anything to keep. The same files exported twice with one exporter are listed twice, and the tree is not
  the same (`same_files_listed_twice`); within one export a file with two paths is listed under both.
-/

import CrudQueries.Proofs.Export.Exporter

namespace CrudQueries.Export

open CrudQueries.Files (Location Path Tree)
open CrudQueries.Files.Tree (IsDirectory IsEntryName get?_put_file_ne_dir get?_put_ne get?_put_self isDirectory_single
  makeDirs_directory)

variable {t : Tree} {settings : Settings} {options : Options} {output : Path} {files : List (String × String)}

/-! ## The text of an inventory -/

/-- Digits end where a comma follows. -/
theorem toDigits_inj_of_comma {m n : Nat} {cs ds : List Char}
    (h : Nat.toDigits 10 m ++ ',' :: cs = Nat.toDigits 10 n ++ ',' :: ds) : m = n := by
  have hdigits : ∀ k : Nat, ∀ c ∈ Nat.toDigits 10 k, (c != ',') = true := by
    intro k c hc
    have hdigit := Nat.isDigit_of_mem_toDigits (by decide) (by decide) hc
    rw [bne_iff_ne]
    rintro rfl
    cases hdigit
  have htake := congrArg (List.takeWhile (· != ',')) h
  rw [List.takeWhile_append_of_pos (hdigits m), List.takeWhile_append_of_pos (hdigits n)] at htake
  simp only [List.takeWhile_cons, bne_self_eq_false, Bool.false_eq_true, if_false, List.append_nil] at htake
  rw [← Nat.ofDigitChars_ten_toDigits (n := m), htake, Nat.ofDigitChars_ten_toDigits]

/-- The text of an inventory tells the number of its files. -/
theorem length_of_text {version language output : String} {fs gs : List FileRecord}
    (h : (Inventory.of version language output fs).text = (Inventory.of version language output gs).text) :
    fs.length = gs.length := by
  have hnumeral : ∀ n : Nat, (toString (n : Int)).toList = Nat.toDigits 10 n := fun _ => String.toList_ofList
  have hlist := congrArg String.toList h
  simp only [Inventory.text, Data.Json.write, Inventory.toValue, Inventory.mapping, Inventory.of, List.map_cons,
    Data.Json.writeValue, Data.Json.writeEntries, Data.Json.joinPieces, List.isEmpty_cons, String.toList_append,
    String.toList_ofList, List.append_assoc, List.cons_append, Bool.false_eq_true, if_false, Data.Json.Layout.separator] at hlist
  simp only [List.cons.injEq, true_and, List.append_cancel_left_eq, hnumeral] at hlist
  exact toDigits_inj_of_comma hlist

/-! ## The files of an export -/

/-- Did the export write a file at this path? -/
def Run.wrote (r : Run) (path : String) : Bool := r.records.any (·.path == path)

theorem recordPaths_sublist (files : List (String × String)) (t : Tree) :
    (((writeFiles t options output files).2.filterMap (·.outcome.toOption)).map (·.path)).Sublist (files.map (·.1)) := by
  induction files generalizing t with
  | nil => exact List.Sublist.refl _
  | cons file rest ih =>
    obtain ⟨path, content⟩ := file
    rcases writeFile_text t options output path with ⟨u, e, herror⟩ | ⟨u, place, -, hput⟩
    · cases hf : (writeFile t options output path content).2.fault? with
      | some e' =>
        rw [(writeFiles_cons_fault rest hf).1, herror]
        exact List.nil_sublist _
      | none =>
        rw [(writeFiles_cons rest hf).1, herror]
        exact (ih u).cons path
    · have hf : (writeFile t options output path content).2.fault? = none := by rw [(hput content).1]; rfl
      rw [(writeFiles_cons rest hf).1, (hput content).1]
      exact (ih _).cons_cons path

/-- What an export comes to: of which files, in which language, and by which fault. -/
theorem run_frame (t : Tree) (settings : Settings) (options : Options) (output : Path) (files : List (String × String)) :
    let r := (run t settings options output files).2
    r.language = settings.language ∧ r.output = output ∧
      (r.files = [] ∨ r.files = (filesWritten t options output files).2) ∧ r.fault = r.files.findSome? (·.fault?) := by
  intro r
  cases hm : ((cleaned t options output).makeDirs output).trouble with
  | some e =>
    rw [show r = _ from congrArg Prod.snd (run_of_trouble settings hm)]
    exact ⟨rfl, rfl, .inl rfl, rfl⟩
  | none =>
    have hr : r = _ := congrArg Prod.snd (run_eq hm)
    cases hf : (filesWritten t options output files).2.findSome? (·.fault?) with
    | some e =>
      rw [hf] at hr
      rw [hr]
      exact ⟨rfl, rfl, .inr rfl, hf.symm⟩
    | none =>
      rw [hf] at hr
      dsimp only at hr
      rw [hr, writeInventory_frame]
      exact ⟨rfl, rfl, .inr rfl, hf.symm⟩

/-- An export of files with different paths has one record for each that it wrote. -/
theorem nodup_recordPaths (t : Tree) (settings : Settings) (options : Options) (output : Path)
    (h : (files.map (·.1)).Nodup) : ((run t settings options output files).2.records.map (·.path)).Nodup := by
  rcases (run_frame t settings options output files).2.2.1 with hfiles | hfiles
  · rw [Run.records, hfiles]
    exact List.nodup_nil
  · have hsorted : ((byPath files).map (·.1)).Nodup := ((List.mergeSort_perm files _).map _).nodup_iff.mpr h
    rw [Run.records, hfiles]
    exact hsorted.sublist (recordPaths_sublist _ _)

theorem count_paths (path : String) {rs : List Run} (h : ∀ r ∈ rs, (r.records.map (·.path)).Nodup) :
    ((rs.flatMap (·.records)).map (·.path)).count path = rs.countP (·.wrote path) := by
  induction rs with
  | nil => rfl
  | cons r rest ih =>
    have hone : (r.records.map (·.path)).count path = if r.wrote path then 1 else 0 := by
      rw [(h r List.mem_cons_self).count]
      simp [Run.wrote]
    rw [List.flatMap_cons, List.map_append, List.count_append, hone, ih fun q hq => h q (List.mem_cons_of_mem _ hq),
      List.countP_cons, Nat.add_comm]

/-! ## Files in one directory -/

section directory

variable {place : Location} {x : Exporter}

/-- The paths are those of files right in a directory, and no directory has their names. -/
def FilesIn (t : Tree) (place : Location) (files : List (String × String)) : Prop :=
  ∀ f ∈ files, ∃ name, Path.ofText f.1 = ⟨"", [name]⟩ ∧ IsEntryName name ∧ t.get? (place ++ [name]) ≠ some .dir

/-- The records of files right in a directory. -/
def recordsIn (place : Location) (files : List (String × String)) : List FileRecord :=
  files.map fun f => .of f.1 (⟨"/", place ++ (Path.ofText f.1).parts⟩ : Path).text f.2

/-- The exporter with more records. -/
def Exporter.add (x : Exporter) (records : List FileRecord) : Exporter := { x with records := x.records ++ records }

@[simp] theorem Exporter.add_options (x : Exporter) (records : List FileRecord) : (x.add records).options = x.options := rfl

@[simp] theorem Exporter.add_output (x : Exporter) (records : List FileRecord) : (x.add records).output = x.output := rfl

theorem Exporter.writeFiles_directory (hx : x.options.atomic = true) (hout : x.output = ⟨"/", place⟩)
    (h : IsDirectory t place) (hfiles : FilesIn t place files) :
    ∃ u, x.writeFiles t files = (u, x.add (recordsIn place files), none) ∧
      IsDirectory u place ∧ ∀ q, t.get? q ≠ some .dir → u.get? q ≠ some .dir := by
  induction files generalizing t x with
  | nil => exact ⟨t, by simp [writeFiles, recordsIn, add], h, fun _ hq => hq⟩
  | cons f rest ih =>
    obtain ⟨path, content⟩ := f
    obtain ⟨name, hpath, hname, hfree⟩ := hfiles _ List.mem_cons_self
    dsimp only at hpath
    have hwrite := writeFile_named h hname hpath hfree x.options hx content
    have hkeeps : ∀ q, t.get? q ≠ some .dir →
        (t.put (place ++ [name]) (.file (Text.Utf8.encode content))).get? q ≠ some .dir :=
      fun q hq => get?_put_file_ne_dir (by simp) hq _
    have hrest : FilesIn (t.put (place ++ [name]) (.file (Text.Utf8.encode content))) place rest := by
      intro f hf
      obtain ⟨other, hpath, hname, hfree⟩ := hfiles f (List.mem_cons_of_mem _ hf)
      exact ⟨other, hpath, hname, hkeeps _ hfree⟩
    obtain ⟨u, hall, hdir, hlater⟩ := ih (x := x.note ⟨path, .ok (.of path (⟨"/", place ++ [name]⟩ : Path).text content)⟩)
      hx hout (h.put hfree _) hrest
    refine ⟨u, ?_, hdir, fun q hq => hlater q (hkeeps q hq)⟩
    rw [writeFiles, hout, hwrite]
    simp only [Written.fault?, hall]
    simp [note, add, Run.Written.error?, recordsIn, hpath, hout, Except.toOption]

/-- Files right in the output directory are written there, and the inventory of all that are kept then. -/
theorem Exporter.call_directory (hx : x.options = {}) (hout : x.output = ⟨"/", place⟩) (h : IsDirectory t place)
    (hfiles : FilesIn t place files) (hfree : t.get? (place ++ [Inventory.fileName]) ≠ some .dir) :
    ∃ u, let y := x.add (recordsIn place (byPath files))
      x.call t files = (u.put (place ++ [Inventory.fileName]) (.file (Text.Utf8.encode y.inventory.text)), y,
        .ok y.outcome) ∧
      IsDirectory u place ∧ ∀ q, t.get? q ≠ some .dir → u.get? q ≠ some .dir := by
  have hclean : x.clean t = (t, x) := by simp [clean, cleanOutput, hx]
  obtain ⟨u, hall, hdir, hlater⟩ := writeFiles_directory (x := x) (by rw [hx]) hout h
    fun f (hf : f ∈ byPath files) => hfiles f (mem_byPath.mp hf)
  refine ⟨u, ?_, hdir, hlater⟩
  have hwrite := fun text => writeFile_directory hdir (by decide) (hlater _ hfree) x.options (by rw [hx]) text
  unfold call
  simp only [hclean, hout, makeDirs_directory h, hall]
  rw [writeInventory, if_pos (by simp [hx])]
  simp only [add_options, add_output, hout, hwrite]

/-- The same files twice, with one exporter: the second export lists them all twice. -/
theorem Exporter.calls_twice (hx : x.options = {}) (hout : x.output = ⟨"/", place⟩) (h : IsDirectory t place)
    (hfiles : FilesIn t place files) (hfree : t.get? (place ++ [Inventory.fileName]) ≠ some .dir) :
    let once := x.add (recordsIn place (byPath files))
    let twice := once.add (recordsIn place (byPath files))
    (x.calls t [files]).1.get? (place ++ [Inventory.fileName]) = some (.file (Text.Utf8.encode once.inventory.text)) ∧
      (x.calls t [files, files]).1.get? (place ++ [Inventory.fileName]) =
        some (.file (Text.Utf8.encode twice.inventory.text)) ∧
      (x.calls t [files, files]).2.2 = [.ok once.outcome, .ok twice.outcome] := by
  intro once twice
  obtain ⟨u, hcall, hdir, hlater⟩ := call_directory hx hout h hfiles hfree
  have hplace : place ++ [Inventory.fileName] ≠ [] := by simp
  have hput : ∀ q, t.get? q ≠ some .dir →
      (u.put (place ++ [Inventory.fileName]) (.file (Text.Utf8.encode once.inventory.text))).get? q ≠ some .dir :=
    fun q hq => get?_put_file_ne_dir hplace (hlater q hq) _
  obtain ⟨v, hagain, -, -⟩ := call_directory (x := once) hx hout (hdir.put (hlater _ hfree) _)
    (fun f (hf : f ∈ files) => (hfiles f hf).imp fun name hname => ⟨hname.1, hname.2.1, hput _ hname.2.2⟩)
    (hput _ hfree)
  have honce : (x.calls t [files]).1 = u.put (place ++ [Inventory.fileName])
      (.file (Text.Utf8.encode once.inventory.text)) := by
    rw [calls_cons, hcall]
    rfl
  have hboth : x.calls t [files, files] = (v.put (place ++ [Inventory.fileName])
      (.file (Text.Utf8.encode twice.inventory.text)), twice, [.ok once.outcome, .ok twice.outcome]) := by
    rw [calls_cons, calls_cons, hcall, hagain]
    rfl
  rw [honce, hboth]
  exact ⟨get?_put_self _ hplace _, get?_put_self _ hplace _, rfl⟩

end directory

/-! ## What they come to -/

/-- What an export comes to by itself. -/
def Run.outcome (r : Run) : Outcome := ⟨r.success, r.inventory, r.errors, r.warnings⟩

/-- What exports come to together. -/
def together (settings : Settings) (output : Path) (rs : List Run) : Outcome where
  success := rs.all (·.noted.isEmpty)
  inventory := .of Fragment.version settings.language.name output.text (rs.flatMap (·.records))
  errors := rs.flatMap (·.noted)
  warnings := rs.flatMap (·.warnings)

theorem outcome_keepAll (settings : Settings) (options : Options) (output : Path) (rs : List Run) :
    ((({ settings, options, output } : Exporter).keepAll rs).outcome) = together settings output rs := by
  have hsuccess : (rs.flatMap (·.noted)).isEmpty = rs.all (·.noted.isEmpty) := by
    rw [Bool.eq_iff_iff]
    simp
  simp [Exporter.outcome, Exporter.keepAll, Exporter.inventory, together, hsuccess]

/-- Without a fault every error of an export is kept. -/
theorem noted_run (h : (run t settings options output files).2.fault = none) :
    (run t settings options output files).2.noted = (run t settings options output files).2.errors := by
  rw [(run_frame t settings options output files).2.2.2, List.findSome?_eq_none_iff] at h
  rw [Run.noted, List.filter_eq_self.mpr fun w hw => by rw [h w hw]; rfl, Run.errors]

/-- Together with others an export comes to what it comes to by itself exactly if there is nothing of these to keep. -/
theorem together_eq_outcome {past : List Run} (h : (run t settings options output files).2.fault = none) :
    together settings output (past ++ [(run t settings options output files).2]) =
        (run t settings options output files).2.outcome ↔
      ∀ r ∈ past, r.records = [] ∧ r.noted = [] ∧ r.warnings = [] := by
  obtain ⟨hlanguage, houtput, -, -⟩ := run_frame t settings options output files
  have hnoted := noted_run h
  generalize (run t settings options output files).2 = r at hlanguage houtput hnoted ⊢
  constructor
  · intro heq
    have hfiles : past.flatMap (·.records) = [] := by
      simpa [together, Run.outcome, Run.inventory, Inventory.of] using congrArg (·.inventory.files) heq
    have herrors : past.flatMap (·.noted) = [] := by
      simpa [together, Run.outcome, hnoted] using congrArg (·.errors) heq
    have hwarnings : past.flatMap (·.warnings) = [] := by
      simpa [together, Run.outcome] using congrArg (·.warnings) heq
    intro q hq
    exact ⟨List.flatMap_eq_nil_iff.mp hfiles q hq, List.flatMap_eq_nil_iff.mp herrors q hq,
      List.flatMap_eq_nil_iff.mp hwarnings q hq⟩
  · intro hnone
    have hfiles : past.flatMap (·.records) = [] := List.flatMap_eq_nil_iff.mpr fun q hq => (hnone q hq).1
    have herrors : past.flatMap (·.noted) = [] := List.flatMap_eq_nil_iff.mpr fun q hq => (hnone q hq).2.1
    have hwarnings : past.flatMap (·.warnings) = [] := List.flatMap_eq_nil_iff.mpr fun q hq => (hnone q hq).2.2
    have hsuccess : past.all (·.noted.isEmpty) = true := by simpa using herrors
    simp only [together, Run.outcome, Run.inventory, Run.success, List.flatMap_append, List.flatMap_singleton,
      List.all_append, List.all_cons, List.all_nil, hfiles, herrors, hwarnings, hsuccess, hnoted, hlanguage, houtput,
      List.nil_append, Bool.true_and, Bool.and_true]

/-- The text of its inventory tells an export from several together, if the others wrote anything. -/
theorem text_together (t : Tree) (settings : Settings) (options : Options) (output : Path) (files : List (String × String))
    (past : List Run) :
    (together settings output (past ++ [(run t settings options output files).2])).inventory.text =
        (run t settings options output files).2.inventory.text ↔ ∀ r ∈ past, r.records = [] := by
  obtain ⟨hlanguage, houtput, -, -⟩ := run_frame t settings options output files
  generalize (run t settings options output files).2 = r at hlanguage houtput ⊢
  have hinventory : r.inventory = .of Fragment.version settings.language.name output.text r.records := by
    rw [Run.inventory, hlanguage, houtput]
  rw [hinventory, ← List.flatMap_eq_nil_iff]
  constructor
  · intro heq
    have hlength := length_of_text heq
    rw [List.flatMap_append, List.flatMap_singleton, List.length_append] at hlength
    exact List.eq_nil_of_length_eq_zero (Nat.add_eq_right.mp hlength)
  · intro hnone
    rw [together, List.flatMap_append, List.flatMap_singleton, hnone, List.nil_append]

/-- Writing files with the bytes of different texts leaves different trees. -/
theorem put_text_inj {base : Tree} {place : Location} (hne : place ≠ []) {text other : String} :
    base.put place (.file (Text.Utf8.encode text)) = base.put place (.file (Text.Utf8.encode other)) ↔ text = other := by
  constructor
  · intro heq
    have hentry := congrArg (·.get? place) heq
    simpa [get?_put_self _ hne, Text.Utf8.encode, String.toUTF8_eq_toByteArray, String.toByteArray_inj] using hentry
  · rintro rfl
    rfl

/-- What an export of a sequence comes to, after any others with the same exporter: an error where it meets a fault, and
  else what it and all before it come to together. So each path is listed once for each export that wrote it, and the
  export is told of alone exactly if none before it left a record, an error or a warning to keep. It leaves what it
  leaves by itself but for the text of the inventory, if that is written: this is of them all, and the same only if
  none before it wrote a file. -/
theorem calls_accumulate (t : Tree) (settings : Settings) (options : Options) (output : Path)
    (before : List (List (String × String))) (files : List (String × String)) (after : List (List (String × String)))
    (hpaths : ∀ batch ∈ before ++ [files], (batch.map (·.1)).Nodup) :
    let fresh : Exporter := { settings, options, output }
    let found := (fresh.calls t before).1
    let left := (fresh.calls t (before ++ [files])).1
    let past := fresh.alone t before
    let own := run found settings options output files
    let all := together settings output (past ++ [own.2])
    (fresh.calls t (before ++ files :: after)).2.2[before.length]? =
        some (match own.2.fault with
          | some e => .error e
          | none => .ok all) ∧
      (own.2.fault = none → (all = own.2.outcome ↔ ∀ r ∈ past, r.records = [] ∧ r.noted = [] ∧ r.warnings = [])) ∧
      (∀ path, (all.inventory.files.map (·.path)).count path = (past ++ [own.2]).countP (·.wrote path)) ∧
      (own.2.WroteInventory → ∃ place,
        (exportPlacements found settings options output files).getLast? =
          some (place, Text.Utf8.encode own.2.inventory.text) ∧
        left.get? place = some (.file (Text.Utf8.encode all.inventory.text)) ∧
        ∀ q ≠ place, left.get? q = own.1.get? q) ∧
      (left = own.1 ↔ (own.2.WroteInventory → ∀ r ∈ past, r.records = [])) := by
  intro fresh found left past own all
  obtain ⟨houtcome, hsame⟩ : _ ∧
      Exporter.SameButInventory (exportPlacements found settings options output files) own left _ :=
    Exporter.calls_call fresh t before files after
  have hall : (fresh.keepAll (past ++ [own.2])).outcome = all := outcome_keepAll settings options output _
  have hinventory : (fresh.keepAll (past ++ [own.2])).inventory = all.inventory := congrArg (·.inventory) hall
  rw [hall] at houtcome
  rw [hinventory] at hsame
  have hpaths' : ∀ r ∈ past ++ [own.2], (r.records.map (·.path)).Nodup := by
    intro r hr
    rcases List.mem_append.mp hr with hr | hr
    · obtain ⟨u, batch, hbatch, rfl⟩ := Exporter.mem_alone fresh hr
      exact nodup_recordPaths _ _ _ _ (hpaths batch (List.mem_append_left _ hbatch))
    · rw [List.mem_singleton.mp hr]
      exact nodup_recordPaths _ _ _ _ (hpaths files (by simp))
  refine ⟨houtcome, together_eq_outcome, fun path => count_paths path hpaths', ?_, ?_⟩
  · intro hwrote
    obtain ⟨base, place, hne, hput, hown, hthis⟩ := hsame.written hwrote
    refine ⟨place, hput, ?_, fun q hq => ?_⟩
    · rw [hthis, get?_put_self _ hne]
    · rw [hthis, hown, get?_put_ne _ hq, get?_put_ne _ hq]
  · have htext := text_together found settings options output files past
    by_cases hwrote : own.2.WroteInventory
    · obtain ⟨base, place, hne, -, hown, hthis⟩ := hsame.written hwrote
      rw [hthis, hown, put_text_inj hne, imp_iff_right hwrote]
      exact htext
    · exact ⟨fun _ h => absurd h hwrote, fun _ => hsame.unwritten hwrote⟩

/-- An exporter for the directory of a tree that has no other. -/
def outExporter : Exporter := { settings := {}, options := {}, output := ⟨"/", ["out"]⟩ }

theorem filesIn_out (files : List (String × String))
    (h : ∀ f ∈ files, Path.ofText f.1 = ⟨"", ["a.py"]⟩) : FilesIn ⟨[], [(["out"], .dir)]⟩ ["out"] files :=
  fun f hf => ⟨"a.py", h f hf, by decide, by decide⟩

theorem calls_accumulate_twice :
    let t : Tree := ⟨[], [(["out"], .dir)]⟩
    let files := [("a.py", "x\n")]
    let own := run (outExporter.calls t [files]).1 {} {} ⟨"/", ["out"]⟩ files
    (∀ batch ∈ [files] ++ [files], (batch.map (·.1)).Nodup) ∧
      ∃ o, (outExporter.calls t [files, files]).2.2[1]? = some (.ok o) ∧
        (o.inventory.files.map (·.path)).count "a.py" = 2 ∧
        (outExporter.alone t [files] ++ [own.2]).countP (·.wrote "a.py") = 2 := by
  intro t files own
  have hpaths : ∀ batch ∈ [files] ++ [files], (batch.map (·.1)).Nodup := by decide
  obtain ⟨houtcome, -, hcount, -⟩ := calls_accumulate t {} {} ⟨"/", ["out"]⟩ [files] files [] hpaths
  obtain ⟨-, -, hcalls⟩ := Exporter.calls_twice (x := outExporter) rfl rfl
    (isDirectory_single (by decide)) (filesIn_out files (by decide)) (by decide)
  rw [show byPath files = files from List.mergeSort_singleton _] at hcalls
  have hsecond := congrArg (·[1]?) hcalls
  refine ⟨hpaths, _, hsecond, by decide, ?_⟩
  have hsame : (match own.2.fault with
      | some e => Except.error e
      | none => .ok (together {} ⟨"/", ["out"]⟩ (outExporter.alone t [files] ++ [own.2]))) = Except.ok _ :=
    Option.some.inj (houtcome.symm.trans hsecond)
  cases hf : own.2.fault with
  | some e =>
    rw [hf] at hsame
    cases hsame
  | none =>
    rw [hf] at hsame
    have htwice := congrArg (fun o => (o.inventory.files.map (·.path)).count "a.py") (Except.ok.inj hsame)
    exact (hcount "a.py").symm.trans (htwice.trans (by decide))

theorem same_files_listed_twice :
    let t : Tree := ⟨[], [(["out"], .dir)]⟩
    let files := [("a.py", "x\n")]
    (∃ first second, (outExporter.calls t [files, files]).2.2 = [.ok first, .ok second] ∧
        first.inventory.files.map (·.path) = ["a.py"] ∧ second.inventory.files.map (·.path) = ["a.py", "a.py"]) ∧
      (outExporter.calls t [files, files]).1 ≠ (outExporter.calls t [files]).1 ∧
      ∃ both, (outExporter.call t [("./a.py", "x\n"), ("a.py", "y\n")]).2.2 = .ok both ∧
        both.inventory.files.map (·.absolute) = ["/out/a.py", "/out/a.py"] := by
  intro t files
  have hdir : IsDirectory t ["out"] := isDirectory_single (by decide)
  have hsorted : byPath files = files := List.mergeSort_singleton _
  obtain ⟨honce, htwice, hcalls⟩ := Exporter.calls_twice (x := outExporter) rfl rfl hdir
    (filesIn_out files (by decide)) (by decide)
  rw [hsorted] at honce htwice hcalls
  refine ⟨⟨_, _, hcalls, by decide, by decide⟩, fun heq => ?_, ?_⟩
  · rw [heq, honce] at htwice
    simp only [Option.some.injEq, Files.Entry.file.injEq, Text.Utf8.encode, String.toUTF8_eq_toByteArray,
      String.toByteArray_inj] at htwice
    exact absurd (length_of_text htwice) (by decide)
  · obtain ⟨u, hcall, -⟩ := Exporter.call_directory (x := outExporter) rfl rfl hdir
      (filesIn_out [("./a.py", "x\n"), ("a.py", "y\n")] (by decide)) (by decide)
    have hpaths : byPath [("./a.py", "x\n"), ("a.py", "y\n")] = [("./a.py", "x\n"), ("a.py", "y\n")] :=
      List.mergeSort_of_pairwise (by decide)
    rw [hcall, hpaths]
    exact ⟨_, rfl, by decide⟩

end CrudQueries.Export
