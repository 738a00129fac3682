import LintDispatch.Proofs.CommandLine.Recording

/-! Asking for debugging changes nothing else. Readings that differ in the value of one parameter
alone go on to do so whatever is read, and end in the same way; and a `-d` in front of the arguments
is just such a difference. -/

namespace LintDispatch

def Settings.withDebug (s : Settings) (debugging : Bool) : Settings :=
  { s with debug := debugging }

namespace Settings

variable (s : Settings) (debugging : Bool)

@[simp] theorem debug_withDebug : (s.withDebug debugging).debug = debugging := rfl

@[simp] theorem changedOnly_withDebug : (s.withDebug debugging).changedOnly = s.changedOnly := rfl

@[simp] theorem changedRef_withDebug : (s.withDebug debugging).changedRef = s.changedRef := rfl

@[simp] theorem mode_withDebug : (s.withDebug debugging).mode = s.mode := rfl

end Settings

namespace CommandLine

variable {name : String} {q r : Reading} {o : Options} {c : Command} {linters : List Linter}

/-- The two readings have the same behind them and expect the same, but for the value of the
parameter with this name. -/
structure Reading.SameBut (name : String) (q r : Reading) : Prop where
  expecting : q.expecting = r.expecting
  values : ∀ other ≠ name, q.values.find? other = r.values.find? other
  requests : q.requests = r.requests
  paths : q.paths = r.paths

namespace Reading.SameBut

theorem store_left (h : q.SameBut name r) (v : Value) : (q.store name v).SameBut name r :=
  ⟨h.expecting, fun other hother =>
    (Bindings.find?_set_of_ne v _ hother).trans (h.values other hother), h.requests, h.paths⟩

theorem store (h : q.SameBut name r) (parameter : String) (v : Value) :
    (q.store parameter v).SameBut name (r.store parameter v) := by
  refine ⟨h.expecting, fun other hother => ?_, h.requests, h.paths⟩
  simp only [Reading.store]
  by_cases hp : other = parameter
  · rw [hp, Bindings.find?_set_self, Bindings.find?_set_self]
  · rw [Bindings.find?_set_of_ne v _ hp, Bindings.find?_set_of_ne v _ hp]
    exact h.values other hother

theorem expect (h : q.SameBut name r) (x : Expecting) :
    ({ q with expecting := x } : Reading).SameBut name { r with expecting := x } :=
  ⟨rfl, h.values, h.requests, h.paths⟩

theorem addPath (h : q.SameBut name r) (path : String) :
    (q.addPath path).SameBut name (r.addPath path) :=
  ⟨h.expecting, h.values, h.requests, congrArg (· ++ [path]) h.paths⟩

theorem perform (h : q.SameBut name r) (e : Effect) : (q.perform e).SameBut name (r.perform e) := by
  cases e with
  | turn parameter on => exact h.store parameter (.bool on)
  | take parameter => exact h
  | version => exact ⟨h.expecting, h.values, congrArg (· ++ [Request.version]) h.requests, h.paths⟩
  | help => exact ⟨h.expecting, h.values, congrArg (· ++ [Request.help]) h.requests, h.paths⟩

theorem cluster (lead : Char) (cs : List Char) (h : q.SameBut name r) :
    Outcome.Alike (SameBut name) (q.cluster o lead cs) (r.cluster o lead cs) := by
  induction cs generalizing q r with
  | nil => exact h
  | cons char cs ih =>
    simp only [Reading.cluster]
    split
    · rfl
    · split
      · exact h.expect _
      · exact h.store _ _
    · exact ih (h.perform _)

theorem whole (h : q.SameBut name r) (string : String) (given : Option (List Char)) (e : Effect) :
    Outcome.Alike (SameBut name) (q.whole string given e) (r.whole string given e) := by
  simp only [Reading.whole]
  split
  · split
    · exact h.store _ _
    · exact h.expect _
  · split
    · rfl
    · exact h.perform _

theorem option (h : q.SameBut name r) (arg : List Char) :
    Outcome.Alike (SameBut name) (q.option o arg) (r.option o arg) := by
  simp only [Reading.option]
  split
  · exact h.whole _ _ _
  · split
    · rfl
    · split
      · exact cluster _ _ h
      · exact h

/-- One more argument keeps two readings the same, but for that one value. -/
theorem read (h : q.SameBut name r) (arg : String) :
    Outcome.Alike (SameBut name) (q.read o arg) (r.read o arg) := by
  simp only [Reading.read, h.expecting]
  split
  · exact h.addPath arg
  · exact (h.store _ _).expect .any
  · split
    · exact h.expect .path
    · split
      · exact h.option _
      · exact h.addPath arg

theorem finish (h : q.SameBut name r) : Outcome.Alike (SameBut name) q.finish r.finish := by
  simp only [Reading.finish, h.expecting]
  split
  · rfl
  · exact h

end Reading.SameBut

inductive Parsed.SameButDebug : Parsed → Parsed → Prop
  | request (request : Request) : SameButDebug (.request request) (.request request)
  | run {values values' : Bindings Value} (paths : List String)
    (hsettings : settingsOf values = (settingsOf values').withDebug (flag values .debug))
    (htoggled : toggled values = toggled values') :
    SameButDebug (.run values paths) (.run values' paths)

theorem Reading.SameBut.settingsOf (h : q.SameBut Setting.debug.name r) :
    settingsOf q.values = (settingsOf r.values).withDebug (flag q.values .debug) := by
  have hname : ∀ a : Setting, a ≠ .debug → q.values.find? a.name = r.values.find? a.name :=
    fun a ha => h.values a.name fun he => ha (Setting.name_inj.mp he)
  simp [CommandLine.settingsOf, Settings.withDebug, flag, reference, hname]

theorem Reading.SameBut.toggled (h : q.SameBut Setting.debug.name r) :
    toggled q.values = toggled r.values := by
  funext i
  rw [CommandLine.toggled, h.values _ (toggleName_ne_name i .debug), CommandLine.toggled]

theorem parsed_sameButDebug (c : Command) (h : q.SameBut Setting.debug.name r) :
    Parsed.SameButDebug
      (match q.requests with
        | request :: _ => .request request
        | [] => .run (allValues c q.values) q.paths)
      (match r.requests with
        | request :: _ => .request request
        | [] => .run (allValues c r.values) r.paths) := by
  rw [h.requests, h.paths]
  split
  · exact .request _
  · refine .run _ ?_ (funext fun i => ?_)
    · have hsettings := h.settingsOf
      simpa only [CommandLine.settingsOf, flag_allValues, reference_allValues] using hsettings
    · rw [toggled_allValues, toggled_allValues, h.toggled]

/-- With `-d` in front, arguments are refused as they are without it, or ask for the same. -/
theorem parse_debug (hc : build linters = .ok c) (ho : Options.ofParameters c.parameters = .ok o)
    (args : List String) :
    Outcome.Alike Parsed.SameButDebug (parse c o ("-d" :: args)) (parse c o args) := by
  have hrecords := Options.records_of_ofParameters ho
  have hlookup : o.short.find? (short 'd') = some (.turn Setting.debug.name true) :=
    (hrecords.find?_short (by decide)).trans
      ((regular_of_build hc).find?_setting (by decide))
  have hread : Reading.start.read o "-d" = .ok (Reading.start.store Setting.debug.name (.bool true)) :=
    Reading.read_short hrecords hlookup (by decide) (by decide) rfl
  have hstart : (Reading.start.store Setting.debug.name (.bool true)).SameBut Setting.debug.name
      .start :=
    Reading.SameBut.store_left ⟨rfl, fun _ _ => rfl, rfl, rfl⟩ _
  have hboth : Outcome.Alike (Reading.SameBut Setting.debug.name)
      (args.foldlM (Reading.read o) (Reading.start.store Setting.debug.name (.bool true)))
      (args.foldlM (Reading.read o) .start) :=
    Outcome.Alike.foldlM (fun arg _ _ _ h => h.read arg) hstart
  rw [parse, parse, List.foldlM_cons, hread]
  exact (hboth.bind fun _ _ h => h.finish).map fun _ _ h => parsed_sameButDebug c h

end CommandLine

end LintDispatch
