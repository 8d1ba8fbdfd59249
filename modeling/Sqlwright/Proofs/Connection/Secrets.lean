import Sqlwright.Connections
import Sqlwright.Log.Redaction
import Sqlwright.Proofs.Connection.Percent
import Sqlwright.Proofs.Outcome
import Sqlwright.Proofs.Text.Name

/-!
What the text of an address for a log gives away. Of the password it tells only whether there is one
for a user. The parameters are all written out, and can be read back with their values, whatever
their names are. Main statement: `Dsn.shown_eq_iff`.
-/

namespace Sqlwright

open Text

namespace Dsn

def takeUp (known : Keyed String) (parameter : String × String) : Keyed String :=
  if known.has parameter.1 then known else known.put parameter.1 parameter.2

/-- Parameters as they are read from an address: each name once, and no value empty. -/
structure Legible (query : Keyed String) : Prop where
  names : query.keys.Nodup
  values : ∀ parameter ∈ query, parameter.2 ≠ ""

variable {known query : Keyed String}

theorem takeUp_of_not_has {parameter : String × String} (new : known.has parameter.1 = false) :
    takeUp known parameter = known ++ [parameter] := by
  rw [takeUp, new, if_neg Bool.false_ne_true, Keyed.put_of_not_has new]

theorem Legible.takeUp (legible : Legible known) {parameter : String × String}
    (present : parameter.2 ≠ "") : Legible (Dsn.takeUp known parameter) := by
  cases has : known.has parameter.1 with
  | true => rwa [Dsn.takeUp, if_pos has]
  | false =>
    have absent : parameter.1 ∉ known.keys := by
      rw [← Keyed.has_iff_mem_keys, has]
      exact Bool.false_ne_true
    rw [takeUp_of_not_has has]
    constructor
    · rw [Keyed.keys, List.map_append, List.map_singleton, List.nodup_append]
      refine ⟨legible.names, List.pairwise_singleton _ _, ?_⟩
      rintro name member other single rfl
      exact absent (List.mem_singleton.mp single ▸ member)
    · rw [List.forall_mem_append]
      exact ⟨legible.values, List.forall_mem_singleton.mpr present⟩

theorem Legible.foldl {parameters : List (String × String)}
    (present : ∀ parameter ∈ parameters, parameter.2 ≠ "") (legible : Legible known) :
    Legible (parameters.foldl Dsn.takeUp known) := by
  induction parameters generalizing known with
  | nil => exact legible
  | cons parameter rest ih =>
    obtain ⟨here, later⟩ := List.forall_mem_cons.mp present
    exact ih later (legible.takeUp here)

/-- Parameters with different names are all taken up. -/
theorem foldl_takeUp (names : (Keyed.keys (known ++ query)).Nodup) :
    query.foldl takeUp known = known ++ query := by
  induction query generalizing known with
  | nil => simp
  | cons parameter rest ih =>
    have split : known ++ parameter :: rest = (known ++ [parameter]) ++ rest := by simp
    have new : known.has parameter.1 = false := by
      rw [← Bool.not_eq_true, Keyed.has_iff_mem_keys]
      intro member
      rw [Keyed.keys, List.map_append, List.nodup_append] at names
      exact names.2.2 _ member _ (by simp) rfl
    rw [List.foldl_cons, takeUp_of_not_has new, split]
    exact ih (split ▸ names)

theorem readQuery_eq (text : List Char) :
    readQuery text = ((pieces (· == '&') text).filterMap readParameter).foldl takeUp [] :=
  rfl

theorem value_ne_empty {text : List Char} {parameter : String × String}
    (read : readParameter text = some parameter) : parameter.2 ≠ "" := by
  unfold readParameter at read
  split at read
  · split at read
    · cases read
    · rename_i name value _ present
      cases read
      rw [Ne, String.ofList_eq_empty_iff]
      exact Percent.decode_ne_nil fun empty => present (by rw [empty]; rfl)
  · cases read

/-- However an address is written, each name is read once and no value is empty. -/
theorem legible_readQuery (text : List Char) : Legible (readQuery text) := by
  rw [readQuery_eq]
  refine Legible.foldl ?_ ⟨List.nodup_nil, by simp⟩
  intro parameter member
  obtain ⟨piece, -, read⟩ := List.mem_filterMap.mp member
  exact value_ne_empty read

def shownParameter (parameter : String × String) : String :=
  Percent.encode parameter.1 ++ "=" ++ Percent.encode parameter.2

theorem shownQuery_eq (query : Keyed String) :
    shownQuery query = join "&" (query.map shownParameter) :=
  rfl

/-- A parameter with a value is read back as it is shown. -/
theorem readParameter_shownParameter {parameter : String × String} (present : parameter.2 ≠ "") :
    readParameter (shownParameter parameter).toList = some parameter := by
  have absent : '=' ∉ (Percent.encode parameter.1).toList := Percent.not_mem_encode rfl _
  have written : (shownParameter parameter).toList =
      (Percent.encode parameter.1).toList ++ '=' :: (Percent.encode parameter.2).toList := by
    simp [shownParameter]
  have filled : (Percent.encode parameter.2).toList.isEmpty = false := by
    simpa using Percent.encode_ne_empty present
  rw [readParameter, written, cutAt_append absent]
  simp [filled, Percent.decode_encode]

theorem not_mem_shownParameter (parameter : String × String) :
    '&' ∉ (shownParameter parameter).toList := by
  have absent (text : String) : '&' ∉ (Percent.encode text).toList :=
    Percent.not_mem_encode rfl text
  simp [shownParameter, absent]

/-- The written parameters read back, all of them. -/
theorem readQuery_shownQuery (legible : Legible query) :
    readQuery (shownQuery query).toList = query := by
  have ampersand : "&".toList = ['&'] := rfl
  by_cases empty : query = []
  · rw [empty]
    rfl
  · have apart : ∀ text ∈ query.map shownParameter, '&' ∉ text.toList := by
      intro text member
      obtain ⟨parameter, -, rfl⟩ := List.mem_map.mp member
      exact not_mem_shownParameter parameter
    have read : ∀ parameter ∈ query,
        (readParameter ∘ String.toList ∘ shownParameter) parameter = some parameter := by
      intro parameter member
      rw [Function.comp_apply, Function.comp_apply]
      exact readParameter_shownParameter (legible.values parameter member)
    rw [readQuery_eq, shownQuery_eq, pieces_join ampersand (by simpa using empty) apart,
      List.map_map, List.filterMap_map, List.filterMap_congr read, List.filterMap_some]
    exact foldl_takeUp legible.names

def hidesPassword (d : Dsn) : Bool :=
  !(d.username.getD "").isEmpty && !(d.password.getD "").isEmpty

/-- Two addresses that differ at most in their passwords and in their parameters. -/
structure Alike (d e : Dsn) : Prop where
  scheme : d.scheme = e.scheme
  username : d.username = e.username
  host : d.host = e.host
  port : d.port = e.port
  path : d.path = e.path

def shownEnd (query : Keyed String) : String :=
  if query.isEmpty then "" else "?" ++ shownQuery query

variable {d e : Dsn} {text text' : String}

/-- What is shown of the parameters tells them all. -/
theorem shownEnd_inj (legible : Legible query) (legible' : Legible known)
    (same : shownEnd query = shownEnd known) : query = known := by
  have written {query : Keyed String} (present : query ≠ []) :
      (shownEnd query).toList = '?' :: (shownQuery query).toList := by
    rw [shownEnd, if_neg (by simpa using present)]
    simp
  by_cases empty : query = [] <;> by_cases empty' : known = []
  · rw [empty, empty']
  · have letters := written empty'
    rw [← same, empty] at letters
    cases letters
  · have letters := written empty
    rw [same, empty'] at letters
    cases letters
  · have letters := written empty
    rw [same, written empty'] at letters
    rw [← readQuery_shownQuery legible, ← (List.cons.inj letters).2,
      readQuery_shownQuery legible']

def userEnd (hides : Bool) : String := if hides then ":***@" else "@"

theorem shownUser_eq (d : Dsn) :
    d.shownUser =
      if d.username.getD "" = "" then "" else d.username.getD "" ++ userEnd d.hidesPassword := by
  unfold shownUser hidesPassword userEnd
  generalize d.username.getD "" = name
  generalize d.password.getD "" = password
  by_cases nobody : name = ""
  · simp [nobody]
  · by_cases none : password = ""
    · simp [nobody, none]
    · simp [nobody, none, String.append_assoc]

/-- Whether a password is hidden is seen, since a mark stands in its place. -/
theorem userEnd_inj {hides hides' : Bool} {rest rest' : String}
    (same : userEnd hides ++ rest = userEnd hides' ++ rest') : hides = hides' := by
  have letters := congrArg (List.head? ∘ String.toList) same
  cases hides <;> cases hides' <;> simp [userEnd] at letters ⊢

/-- An address for a log: what the password and the parameters have no part in, around the user. -/
theorem redacted_eq (d : Dsn) :
    d.redacted = d.scheme ++ "://" ++ d.shownUser ++ (d.shownPlace ++ d.path) ++
      shownEnd d.query := by
  rw [redacted, shownEnd]
  simp only [String.append_assoc]

theorem Alike.shownPlace (alike : d.Alike e) : d.shownPlace = e.shownPlace := by
  rw [Dsn.shownPlace, Dsn.shownPlace, alike.host, alike.port]

/-- Whether a password is hidden can be seen behind the name of the user. -/
theorem Alike.hidesPassword (alike : d.Alike e) {rest rest' : String}
    (same : d.shownUser ++ rest = e.shownUser ++ rest') :
    d.hidesPassword = e.hidesPassword := by
  rw [shownUser_eq, shownUser_eq, ← alike.username] at same
  by_cases nobody : d.username.getD "" = ""
  · rw [Dsn.hidesPassword, Dsn.hidesPassword, ← alike.username, nobody]
    rfl
  · rw [if_neg nobody, if_neg nobody, String.append_assoc, String.append_assoc,
      String.append_right_inj] at same
    exact userEnd_inj same

theorem Alike.shownUser (alike : d.Alike e) (hides : d.hidesPassword = e.hidesPassword) :
    d.shownUser = e.shownUser := by
  rw [shownUser_eq, shownUser_eq, alike.username, hides]

/-- Of addresses that agree elsewhere the shown ones agree exactly if both have a password to hide,
or none has, and all parameters are the same. -/
theorem Alike.redacted_eq_iff (alike : d.Alike e) (legible : Legible d.query)
    (legible' : Legible e.query) :
    d.redacted = e.redacted ↔ d.hidesPassword = e.hidesPassword ∧ d.query = e.query := by
  rw [redacted_eq, redacted_eq, alike.scheme, alike.shownPlace, alike.path]
  constructor
  · intro same
    have behind : d.shownUser ++ (e.shownPlace ++ e.path ++ shownEnd d.query) =
        e.shownUser ++ (e.shownPlace ++ e.path ++ shownEnd e.query) := by
      simpa only [String.append_assoc, String.append_right_inj] using same
    have hides := alike.hidesPassword behind
    rw [alike.shownUser hides, String.append_right_inj, String.append_right_inj] at behind
    exact ⟨hides, shownEnd_inj legible legible' behind⟩
  · rintro ⟨hides, query⟩
    rw [alike.shownUser hides, query]

theorem legible_of_read (accepted : Dsn.read text = .ok d) : Legible d.query := by
  unfold Dsn.read at accepted
  obtain ⟨parts, -, accepted⟩ := bind_eq_ok.mp accepted
  dsimp only at accepted
  split at accepted
  · obtain ⟨_, thrown, _⟩ := bind_eq_ok.mp accepted
    cases thrown
  · obtain ⟨port, -, accepted⟩ := bind_eq_ok.mp accepted
    cases accepted
    exact legible_readQuery parts.query

end Dsn

namespace ConnectionConfig

variable {r : Registry} {text : String} {options : Keyed Value} {source : Option String}
  {c : ConnectionConfig}

theorem ofDsn_eq_ok (h : ofDsn r text options source = .ok c) :
    ∃ d, Dsn.read text = .ok d ∧ c.dsn = some d ∧ c.source = source := by
  unfold ofDsn at h
  obtain ⟨d, read, h⟩ := bind_eq_ok.mp h
  cases found : r.find? d.driver with
  | none =>
    rw [found] at h
    cases h
  | some dialect =>
    rw [found] at h
    cases h
    exact ⟨d, read, rfl, rfl⟩

theorem label_eq_iff {d d' : Dsn} {c' : ConnectionConfig} (shown : c.dsn = some d)
    (shown' : c'.dsn = some d') (source : c.source = c'.source) :
    c.label = c'.label ↔ d.redacted = d'.redacted := by
  rw [label, label, redacted, redacted, shown, shown', source]
  dsimp only
  split
  · rfl
  · rw [String.append_left_inj, String.append_right_inj]

end ConnectionConfig

/-- What the text of an address for a log gives away, of two accepted addresses that differ at most
in their passwords and in their parameters. The texts are the same exactly if both or neither of them
has a user with a password, whatever the passwords are, and all parameters have the same values,
whatever the names of the parameters are. The labels of connections that are described by the
addresses, and the records about them, tell as much. The parameters read back from the text. -/
theorem Dsn.shown_eq_iff {text text' : String} {d e : Dsn} (accepted : Dsn.read text = .ok d)
    (accepted' : Dsn.read text' = .ok e) (alike : d.Alike e) :
    (d.redacted = e.redacted ↔ d.hidesPassword = e.hidesPassword ∧ d.query = e.query) ∧
    (∀ (r r' : Registry) (options options' : Keyed Value) (source : Option String)
      (c c' : ConnectionConfig) (name : String),
      ConnectionConfig.ofDsn r text options source = .ok c →
      ConnectionConfig.ofDsn r' text' options' source = .ok c' →
      (c.label = c'.label ↔ d.redacted = e.redacted) ∧
      ((Connections.registered name c).message = (Connections.registered name c').message ↔
        d.redacted = e.redacted)) ∧
    (d.query ≠ [] → ∃ front shown, d.redacted = front ++ "?" ++ shown ∧
      Dsn.readQuery shown.toList = d.query) := by
  have legible := legible_of_read accepted
  refine ⟨alike.redacted_eq_iff legible (legible_of_read accepted'), ?_, ?_⟩
  · intro r r' options options' source c c' name described described'
    obtain ⟨d, read, shown, stated⟩ := ConnectionConfig.ofDsn_eq_ok described
    obtain ⟨e, read', shown', stated'⟩ := ConnectionConfig.ofDsn_eq_ok described'
    obtain rfl := Except.ok.inj (accepted.symm.trans read)
    obtain rfl := Except.ok.inj (accepted'.symm.trans read')
    have labels := ConnectionConfig.label_eq_iff shown shown' (stated.trans stated'.symm)
    refine ⟨labels, ?_⟩
    rw [← labels]
    exact String.append_right_inj _
  · intro present
    refine ⟨d.scheme ++ "://" ++ d.shownUser ++ (d.shownPlace ++ d.path), shownQuery d.query, ?_,
      readQuery_shownQuery legible⟩
    rw [redacted_eq, shownEnd, if_neg (by simpa using present), ← String.append_assoc]

/-- Two addresses with different passwords and the same parameter. -/
theorem Dsn.shown_eq_iff_passwords :
    ∃ d e c c', Dsn.read "mysql://u:p@h/db?password=s3cret" = .ok d ∧
      Dsn.read "mysql://u:q@h/db?password=s3cret" = .ok e ∧ d.password ≠ e.password ∧
      ConnectionConfig.ofDsn .builtIn "mysql://u:p@h/db?password=s3cret" [] none = .ok c ∧
      ConnectionConfig.ofDsn .builtIn "mysql://u:q@h/db?password=s3cret" [] none = .ok c' ∧
      d.redacted = e.redacted ∧ c.label = c'.label ∧
      ∃ front shown, d.redacted = front ++ "?" ++ shown ∧
        Dsn.readQuery shown.toList = [("password", "s3cret")] := by
  have accepted : Dsn.read "mysql://u:p@h/db?password=s3cret" =
      .ok ⟨"mysql", "u", "p", "h", none, "/db", [("password", "s3cret")]⟩ := by rfl
  have accepted' : Dsn.read "mysql://u:q@h/db?password=s3cret" =
      .ok ⟨"mysql", "u", "q", "h", none, "/db", [("password", "s3cret")]⟩ := by rfl
  obtain ⟨c, described⟩ := exists_of_isOk (x := ConnectionConfig.ofDsn .builtIn
    "mysql://u:p@h/db?password=s3cret" [] none) (by decide +kernel)
  obtain ⟨c', described'⟩ := exists_of_isOk (x := ConnectionConfig.ofDsn .builtIn
    "mysql://u:q@h/db?password=s3cret" [] none) (by decide +kernel)
  obtain ⟨shown, labels, back⟩ := Dsn.shown_eq_iff accepted accepted' ⟨rfl, rfl, rfl, rfl, rfl⟩
  have same := shown.mpr ⟨rfl, rfl⟩
  exact ⟨_, _, c, c', accepted, accepted', by decide, described, described', same,
    (labels .builtIn .builtIn [] [] none c c' "default" described described').1.mpr same,
    back (by decide)⟩

/-- A parameter whose name tells of a secret is written out with its value: of two addresses that
differ in nothing else, the texts for a log are different. -/
theorem Dsn.shown_password_parameter :
    ∃ d e, Dsn.read "mysql://u:p@h/db?password=s3cret" = .ok d ∧
      Dsn.read "mysql://u:p@h/db?password=other" = .ok e ∧ d.Alike e ∧ d.password = e.password ∧
      d.query.keys = ["password"] ∧ e.query.keys = ["password"] ∧
      Redaction.isSensitiveKey "password" = true ∧ d.redacted ≠ e.redacted ∧
      d.redacted = "mysql://u:***@h/db?password=s3cret" ∧
      e.redacted = "mysql://u:***@h/db?password=other" := by
  have accepted : Dsn.read "mysql://u:p@h/db?password=s3cret" =
      .ok ⟨"mysql", "u", "p", "h", none, "/db", [("password", "s3cret")]⟩ := by rfl
  have accepted' : Dsn.read "mysql://u:p@h/db?password=other" =
      .ok ⟨"mysql", "u", "p", "h", none, "/db", [("password", "other")]⟩ := by rfl
  exact ⟨_, _, accepted, accepted', ⟨rfl, rfl, rfl, rfl, rfl⟩, rfl, rfl, rfl, by decide +kernel,
    by decide +kernel, by decide +kernel, by decide +kernel⟩

end Sqlwright
