import RemoteInfra.Vehicle.Bars
import RemoteInfra.Vehicle.CommandVerifier

/-!
# What a stage-1 signature binds

The signed text joins six fields with bars, and two of them, the command and its value, are
checked by nothing.  A bar inside one of them cannot be told from the bar between them, and a
value cannot be told from the string that is its text.
-/

namespace RemoteInfra.Vehicle

open RemoteInfra.Library RemoteInfra.Python

/-! ## The signed text -/

/-- The signed text, cut at the bars that are certain. -/
def signedText (vehicleID keyID cmdVal seq ts : PyStr) : PyStr :=
  vehicleID ++ bar :: (keyID ++ bar :: (cmdVal ++ bar :: (seq ++ bar :: ts)))

/-- The text of the numbers is certain from the right, that of the ids from the left. -/
theorem signedText_inj {vehicleID keyID keyID' cmdVal cmdVal' seq seq' ts ts' : PyStr}
    (hkeyID : keyID.count bar = keyID'.count bar) (hseq : bar ∉ seq) (hseq' : bar ∉ seq')
    (hts : bar ∉ ts) (hts' : bar ∉ ts')
    (h : signedText vehicleID keyID cmdVal seq ts = signedText vehicleID keyID' cmdVal' seq' ts') :
    cmdVal = cmdVal' ∧ seq = seq' ∧ ts = ts' := by
  obtain ⟨-, hrest⟩ := append_sep_inj rfl h
  obtain ⟨-, hrest⟩ := append_sep_inj hkeyID hrest
  have hcount : cmdVal.count bar = cmdVal'.count bar := by
    have htotal := congrArg (List.count bar) hrest
    simp only [List.count_append, List.count_cons_self, List.count_eq_zero.mpr hseq,
      List.count_eq_zero.mpr hseq', List.count_eq_zero.mpr hts,
      List.count_eq_zero.mpr hts'] at htotal
    omega
  obtain ⟨rfl, htail⟩ := append_sep_inj hcount hrest
  have hzero : seq.count bar = seq'.count bar := by
    rw [List.count_eq_zero.mpr hseq, List.count_eq_zero.mpr hseq']
  obtain ⟨rfl, rfl⟩ := append_sep_inj hzero htail
  exact ⟨rfl, rfl, rfl⟩

/-- The payload with another command and another value. -/
def withCmdVal (entries : List (PyStr × PyValue)) (cmd val : PyValue) : PyValue :=
  .dict (PyValue.setEntry (PyStr.ofString "cmd") cmd
    (PyValue.setEntry (PyStr.ofString "val") val entries))

section WithCmdVal

variable {entries : List (PyStr × PyValue)} {cmd val : PyValue}

theorem getItem_withCmdVal_cmd : (withCmdVal entries cmd val).getItem "cmd" = .ok cmd :=
  getItem_setEntry_self rfl

theorem getItem_withCmdVal_val : (withCmdVal entries cmd val).getItem "val" = .ok val := by
  rw [withCmdVal, getItem_setEntry_of_ne (by decide)]
  exact getItem_setEntry_self rfl

theorem getItem_withCmdVal_of_ne {name : String} (hcmd : PyStr.ofString name ≠ PyStr.ofString "cmd")
    (hval : PyStr.ofString name ≠ PyStr.ofString "val") :
    (withCmdVal entries cmd val).getItem name = (PyValue.dict entries).getItem name := by
  rw [withCmdVal, getItem_setEntry_of_ne hcmd, getItem_setEntry_of_ne hval]

theorem decoded_withCmdVal {depth : ℕ} (h : Decoded (depth + 1) (.dict entries))
    (hcmd : Decoded depth cmd) (hval : Decoded depth val) :
    Decoded (depth + 1) (withCmdVal entries cmd val) :=
  decoded_setEntry (decoded_setEntry h hval) hcmd

/-- The payload's fields, as far as they are signed. -/
structure SignedFields (v : CommandVerifier) (payload keyID cmd val seq ts : PyValue) : Prop where
  vehicleID_eq : payload.getItem "vehicle_id" = .ok (.str v.vehicleID)
  keyID_eq : payload.getItem "key_id" = .ok keyID
  cmd_eq : payload.getItem "cmd" = .ok cmd
  val_eq : payload.getItem "val" = .ok val
  seq_eq : payload.getItem "seq" = .ok seq
  ts_eq : payload.getItem "ts" = .ok ts

theorem SignedFields.withCmdVal {v : CommandVerifier} {keyID cmd₀ val₀ seq ts : PyValue}
    (h : SignedFields v (.dict entries) keyID cmd₀ val₀ seq ts) (cmd val : PyValue) :
    SignedFields v (withCmdVal entries cmd val) keyID cmd val seq ts where
  vehicleID_eq := (getItem_withCmdVal_of_ne (by decide) (by decide)).trans h.vehicleID_eq
  keyID_eq := (getItem_withCmdVal_of_ne (by decide) (by decide)).trans h.keyID_eq
  cmd_eq := getItem_withCmdVal_cmd
  val_eq := getItem_withCmdVal_val
  seq_eq := (getItem_withCmdVal_of_ne (by decide) (by decide)).trans h.seq_eq
  ts_eq := (getItem_withCmdVal_of_ne (by decide) (by decide)).trans h.ts_eq

end WithCmdVal

section

variable [PythonPlatform]

variable {v w : CommandVerifier} {reg : OperatorKeyRegistration} {p q : PyValue}
  {nowMS nowMS' m n : ℤ} {entries : List (PyStr × PyValue)}

theorem CommandVerifier.Passes.fields (h : v.Passes reg p nowMS m) :
    ∃ keyID cmd val seq ts, SignedFields v p keyID cmd val seq ts ∧
      keyID.eq reg.keyID = true ∧ pyInt seq = .ok m ∧ ∃ t, pyInt ts = .ok t := by
  obtain ⟨keyID, hkeyID, hkey⟩ := h.keyID
  obtain ⟨seq, hseq, hm, -⟩ := h.seq
  obtain ⟨ts, t, hts, ht, -⟩ := h.ts
  obtain ⟨cmd, hcmd⟩ := h.names "cmd" (by decide)
  obtain ⟨val, hval⟩ := h.names "val" (by decide)
  exact ⟨keyID, cmd, val, seq, ts, ⟨h.vehicleID, hkeyID, hcmd, hval, hseq, hts⟩, hkey, hm, t, ht⟩

theorem SignedFields.message {keyID cmd val seq ts : PyValue}
    (h : SignedFields v p keyID cmd val seq ts) :
    CommandVerifier.buildSignMessage p = .ok (signedText v.vehicleID (pyText keyID)
      (pyText cmd ++ bar :: pyText val) (pyText seq) (pyText ts)) := by
  have hvehicle : pyText (.str v.vehicleID) = v.vehicleID := rfl
  simp only [CommandVerifier.buildSignMessage, h.vehicleID_eq, h.keyID_eq, h.cmd_eq, h.val_eq,
    h.seq_eq, h.ts_eq, ok_bind, hvehicle, joinWith, signedText, List.append_assoc,
    List.cons_append, List.nil_append]
  rfl

theorem passes_withCmdVal (h : v.Passes reg (.dict entries) nowMS m) (cmd val : PyValue) :
    v.Passes reg (withCmdVal entries cmd val) nowMS m := by
  have hsame : ∀ {name : String}, PyStr.ofString name ≠ PyStr.ofString "cmd" →
      PyStr.ofString name ≠ PyStr.ofString "val" → (withCmdVal entries cmd val).getItem name =
        (PyValue.dict entries).getItem name := getItem_withCmdVal_of_ne
  refine ⟨fun name hname ↦ ?_, ?_, ?_, ?_, ?_, ?_⟩
  · by_cases hcmd : PyStr.ofString name = PyStr.ofString "cmd"
    · exact ⟨cmd, getItem_setEntry_self hcmd.symm⟩
    by_cases hval : PyStr.ofString name = PyStr.ofString "val"
    · refine ⟨val, ?_⟩
      rw [withCmdVal, getItem_setEntry_of_ne hcmd]
      exact getItem_setEntry_self hval.symm
    · rw [hsame hcmd hval]
      exact h.names name hname
  · exact (hsame (by decide) (by decide)).trans h.alg
  · exact (hsame (by decide) (by decide)).trans h.vehicleID
  · rw [hsame (by decide) (by decide)]
    exact h.keyID
  · rw [hsame (by decide) (by decide)]
    exact h.ts
  · rw [hsame (by decide) (by decide)]
    exact h.seq

/-- The payloads say the same. -/
structure SameMeaning (p q : PyValue) : Prop where
  cmd : ∃ x y, p.getItem "cmd" = .ok x ∧ q.getItem "cmd" = .ok y ∧ x.eq y = true
  val : ∃ x y, p.getItem "val" = .ok x ∧ q.getItem "val" = .ok y ∧ x.eq y = true
  seq : ∃ n, (p.getItem "seq" >>= pyInt) = .ok n ∧ (q.getItem "seq" >>= pyInt) = .ok n
  ts : ∃ t, (p.getItem "ts" >>= pyInt) = .ok t ∧ (q.getItem "ts" >>= pyInt) = .ok t

/-- The texts of command and value, with a bar between them, belong to no other two values that
nest at most `depth` deep. -/
def Untangled (depth : ℕ) (cmd val : PyValue) : Prop :=
  ∀ cmd' val', Decoded depth cmd' → Decoded depth val' →
    pyText cmd ++ bar :: pyText val = pyText cmd' ++ bar :: pyText val' →
      cmd.eq cmd' = true ∧ val.eq val' = true

/-- A string without a bar that is the text of no other value which nests at most `depth` deep. -/
def Unmistakable (depth : ℕ) (x : PyValue) : Prop :=
  ∃ s, x = .str s ∧ bar ∉ s ∧ ∀ y, Decoded depth y → pyText y = s → y = .str s

theorem untangled_iff {depth : ℕ} {cmd val : PyValue} (hcmd : Decoded depth cmd)
    (hval : Decoded depth val) :
    Untangled depth cmd val ↔ Unmistakable depth cmd ∧ Unmistakable depth val := by
  constructor
  · intro h
    -- the strings that are the texts have the same texts
    obtain ⟨hcmdStr, hvalStr⟩ := h (.str (pyText cmd)) (.str (pyText val)) (decoded_str _ _)
      (decoded_str _ _) rfl
    rw [PyValue.eq_str_iff] at hcmdStr hvalStr
    generalize pyText cmd = s at hcmdStr
    generalize pyText val = t at hvalStr
    subst hcmdStr hvalStr
    refine ⟨⟨s, rfl, fun hbar ↦ ?_, fun y hy htext ↦ ?_⟩,
      ⟨t, rfl, fun hbar ↦ ?_, fun y hy htext ↦ ?_⟩⟩
    · obtain ⟨a, b, rfl⟩ := List.append_of_mem hbar
      have hmoved := (h (.str a) (.str (b ++ bar :: t)) (decoded_str _ _) (decoded_str _ _)
        (by simp [pyText])).1
      simpa using PyValue.eq_str_iff.mp hmoved
    · have hsame := (h y (.str t) hy hval (by rw [htext]; rfl)).1
      exact PyValue.eq_str_iff.mp (PyValue.eq_symm hsame)
    · obtain ⟨a, b, rfl⟩ := List.append_of_mem hbar
      have hmoved := (h (.str (s ++ bar :: a)) (.str b) (decoded_str _ _) (decoded_str _ _)
        (by simp [pyText])).1
      simpa using PyValue.eq_str_iff.mp hmoved
    · have hsame := (h (.str s) y hcmd hy (by rw [htext]; rfl)).2
      exact PyValue.eq_str_iff.mp (PyValue.eq_symm hsame)
  · rintro ⟨⟨s, rfl, hs, hcmdOnly⟩, t, rfl, ht, hvalOnly⟩ cmd' val' hcmd' hval' htext
    change s ++ bar :: t = _ at htext
    -- there is one bar, so neither of the other texts holds any
    have htotal := congrArg (List.count bar) htext
    simp only [List.count_append, List.count_cons_self, List.count_eq_zero.mpr hs,
      List.count_eq_zero.mpr ht] at htotal
    have hzero : s.count bar = (pyText cmd').count bar := by
      rw [List.count_eq_zero.mpr hs]
      omega
    obtain ⟨hcmdText, hvalText⟩ := append_sep_inj hzero htext
    obtain rfl := hcmdOnly cmd' hcmd' hcmdText.symm
    obtain rfl := hvalOnly val' hval' hvalText.symm
    exact ⟨PyValue.eq_str_iff.mpr rfl, PyValue.eq_str_iff.mpr rfl⟩

/-- If the payload's signed text tells what it means, its command and value are untangled. -/
theorem untangled_of_sameMeaning {depth : ℕ} {keyID cmd val seq ts : PyValue}
    (hdecoded : Decoded (depth + 1) (.dict entries))
    (hpasses : v.Passes reg (.dict entries) nowMS m)
    (hfields : SignedFields v (.dict entries) keyID cmd val seq ts)
    (h : ∀ q, Decoded (depth + 1) q → v.checkPayload reg q nowMS = .ok (some m) →
      CommandVerifier.buildSignMessage (.dict entries) = CommandVerifier.buildSignMessage q →
        SameMeaning (.dict entries) q) : Untangled depth cmd val := by
  intro cmd' val' hcmd' hval' htext
  have hfields' := hfields.withCmdVal cmd' val'
  have hchecks := CommandVerifier.checkPayload_iff.mpr (passes_withCmdVal hpasses cmd' val')
  have hmessage : CommandVerifier.buildSignMessage (.dict entries) =
      CommandVerifier.buildSignMessage (withCmdVal entries cmd' val') := by
    rw [hfields.message, hfields'.message, htext]
  have hsame := h _ (decoded_withCmdVal hdecoded hcmd' hval') hchecks hmessage
  obtain ⟨x, y, hx, hy, hcmd⟩ := hsame.cmd
  obtain ⟨x', y', hx', hy', hval⟩ := hsame.val
  obtain rfl := Except.ok.inj (hfields.cmd_eq.symm.trans hx)
  obtain rfl := Except.ok.inj (hfields'.cmd_eq.symm.trans hy)
  obtain rfl := Except.ok.inj (hfields.val_eq.symm.trans hx')
  obtain rfl := Except.ok.inj (hfields'.val_eq.symm.trans hy')
  exact ⟨hcmd, hval⟩

/-- Two payloads with one signed text mean the same if the first one's command and value are
untangled. -/
theorem sameMeaning_of_untangled {depth : ℕ}
    {keyID keyID' cmd cmd' val val' seq seq' ts ts' : PyValue} {t t' : ℤ}
    (hp : SignedFields v p keyID cmd val seq ts)
    (hq : SignedFields w q keyID' cmd' val' seq' ts') (hvehicle : w.vehicleID = v.vehicleID)
    (hkeyID : keyID.eq keyID' = true) (hm : pyInt seq = .ok m) (hn : pyInt seq' = .ok n)
    (ht : pyInt ts = .ok t) (ht' : pyInt ts' = .ok t') (hcmd' : Decoded depth cmd')
    (hval' : Decoded depth val') (huntangled : Untangled depth cmd val)
    (h : CommandVerifier.buildSignMessage p = CommandVerifier.buildSignMessage q) :
    SameMeaning p q := by
  rw [hp.message, hq.message, hvehicle] at h
  obtain ⟨htext, hseq, hts⟩ := signedText_inj (count_pyText_of_eq hkeyID)
    (bar_not_mem_of_pyInt hm) (bar_not_mem_of_pyInt hn) (bar_not_mem_of_pyInt ht)
    (bar_not_mem_of_pyInt ht') (Except.ok.inj h)
  obtain ⟨hcmd, hval⟩ := huntangled cmd' val' hcmd' hval' htext
  obtain rfl := pyInt_eq_of_text hseq hm hn
  obtain rfl := pyInt_eq_of_text hts ht ht'
  exact
    { cmd := ⟨cmd, cmd', hp.cmd_eq, hq.cmd_eq, hcmd⟩
      val := ⟨val, val', hp.val_eq, hq.val_eq, hval⟩
      seq := ⟨m, by rw [hp.seq_eq, ok_bind, hm], by rw [hq.seq_eq, ok_bind, hn]⟩
      ts := ⟨t, by rw [hp.ts_eq, ok_bind, ht], by rw [hq.ts_eq, ok_bind, ht']⟩ }

end

/-- Every payload that passes the checks for the same registration, whenever it does, and has the
signed text of `p` says the same as `p`. -/
def BindsMeaning [PythonPlatform] (v : CommandVerifier) (reg : OperatorKeyRegistration)
    (p : PyValue) : Prop :=
  ∀ (w : CommandVerifier) (q : PyValue) (nowMS n : ℤ), w.vehicleID = v.vehicleID →
    Decoded PythonPlatform.nestingLimit q → w.checkPayload reg q nowMS = .ok (some n) →
      CommandVerifier.buildSignMessage p = CommandVerifier.buildSignMessage q → SameMeaning p q

/-- A payload's signed text tells what the payload means if and only if its command and its value
are strings without a bar, neither of which is the text of another value. -/
theorem meaning_bound_iff [PythonPlatform] {v : CommandVerifier} {reg : OperatorKeyRegistration}
    {p : PyValue} {nowMS m : ℤ} (hdecoded : Decoded PythonPlatform.nestingLimit p)
    (hchecks : v.checkPayload reg p nowMS = .ok (some m)) :
    BindsMeaning v reg p ↔
      ∃ cmd val, p.getItem "cmd" = .ok cmd ∧ p.getItem "val" = .ok val ∧
        Unmistakable (PythonPlatform.nestingLimit - 1) cmd ∧
          Unmistakable (PythonPlatform.nestingLimit - 1) val := by
  have hpasses := CommandVerifier.checkPayload_iff.mp hchecks
  obtain ⟨keyID, cmd, val, seq, ts, hfields, hkeyID, hm, t, ht⟩ := hpasses.fields
  unfold BindsMeaning
  generalize PythonPlatform.nestingLimit = limit at hdecoded ⊢
  obtain ⟨depth, entries, rfl, rfl⟩ := hdecoded.of_getItem hfields.cmd_eq
  have hcmd : Decoded depth cmd := decoded_getItem hdecoded hfields.cmd_eq
  have hval : Decoded depth val := decoded_getItem hdecoded hfields.val_eq
  constructor
  · intro h
    have huntangled := untangled_of_sameMeaning hdecoded hpasses hfields
      fun q hq hqchecks ↦ h v q nowMS m rfl hq hqchecks
    exact ⟨cmd, val, hfields.cmd_eq, hfields.val_eq, (untangled_iff hcmd hval).mp huntangled⟩
  · rintro ⟨cmd₀, val₀, hcmd₀, hval₀, hunmistakable⟩ w q nowMS' n hvehicle hqdecoded hqchecks
    obtain rfl := Except.ok.inj (hfields.cmd_eq.symm.trans hcmd₀)
    obtain rfl := Except.ok.inj (hfields.val_eq.symm.trans hval₀)
    obtain ⟨keyID', cmd', val', seq', ts', hfields', hkeyID', hn, t', ht'⟩ :=
      (CommandVerifier.checkPayload_iff.mp hqchecks).fields
    obtain ⟨_, entries', ⟨⟩, rfl⟩ := hqdecoded.of_getItem hfields'.cmd_eq
    exact sameMeaning_of_untangled hfields hfields' hvehicle
      (PyValue.eq_trans hkeyID (PyValue.eq_symm hkeyID')) hm hn ht ht'
      (decoded_getItem hqdecoded hfields'.cmd_eq) (decoded_getItem hqdecoded hfields'.val_eq)
      ((untangled_iff hcmd hval).mpr hunmistakable)

/-! ## Two payloads with one text -/

section Sample

/-- What the operator's console might sign. -/
def signedPayload (cmd val : PyValue) : PyValue :=
  .dict
    [(PyStr.ofString "vehicle_id", .str (PyStr.ofString "car-001")),
      (PyStr.ofString "key_id", .str (PyStr.ofString "kid-2")),
      (PyStr.ofString "cmd", cmd), (PyStr.ofString "val", val),
      (PyStr.ofString "seq", .int 5), (PyStr.ofString "ts", .int 1000),
      (PyStr.ofString "sig", .str []), (PyStr.ofString "alg", .str (PyStr.ofString "Ed25519"))]

def checkingVerifier : CommandVerifier := .new (PyStr.ofString "car-001") 100 0

def checkingRegistration : OperatorKeyRegistration where
  vehicleID := .str (PyStr.ofString "car-001")
  operatorID := .str (PyStr.ofString "driver-105")
  keyID := .str (PyStr.ofString "kid-2")
  publicKeyB64 := .str []
  expiresAtMS := 5000
  registeredAtMS := 0

def steerTwenty : PyValue := signedPayload (.str (PyStr.ofString "steer")) (.int 20)

def steerLeft : PyValue :=
  signedPayload (.str (PyStr.ofString "steer")) (.str (PyStr.ofString "left|20"))

def leftSteer : PyValue :=
  signedPayload (.str (PyStr.ofString "steer|left")) (.str (PyStr.ofString "20"))

/-- A number cannot be told from its digits. -/
theorem meaning_bound_number :
    ¬@BindsMeaning PythonPlatform.ascii checkingVerifier checkingRegistration steerTwenty := by
  let := PythonPlatform.ascii
  intro hbound
  have hdecoded : Decoded PythonPlatform.nestingLimit steerTwenty := by
    have hint : ∀ n : ℤ, n.natAbs < 10 ^ 4 → Decoded 899 (.int n) := fun n ↦
      decoded_int (by decide)
    refine ⟨by decide, ?_⟩
    simp only [List.forall_mem_cons]
    exact ⟨trivial, trivial, trivial, hint 20 (by decide), hint 5 (by decide),
      hint 1000 (by decide), trivial, trivial, by simp⟩
  have hchecks : checkingVerifier.checkPayload checkingRegistration steerTwenty 1050 =
      .ok (some 5) := by
    decide +kernel
  obtain ⟨cmd, val, -, hval, -, s, hs, -⟩ := (meaning_bound_iff hdecoded hchecks).mp hbound
  rw [hs] at hval
  cases hval

/-- A bar moves from the value to the command. -/
theorem bar_moves :
    let := PythonPlatform.ascii
    checkingVerifier.checkPayload checkingRegistration steerLeft 1050 = .ok (some 5) ∧
      checkingVerifier.checkPayload checkingRegistration leftSteer 1050 = .ok (some 5) ∧
        CommandVerifier.buildSignMessage steerLeft = CommandVerifier.buildSignMessage leftSteer ∧
          ¬SameMeaning steerLeft leftSteer := by
  let := PythonPlatform.ascii
  refine ⟨by decide +kernel, by decide +kernel, by decide +kernel, fun h ↦ ?_⟩
  obtain ⟨x, y, hx, hy, heq⟩ := h.cmd
  obtain rfl := Except.ok.inj hx
  obtain rfl := Except.ok.inj hy
  exact absurd heq (by decide +kernel)

end Sample

end RemoteInfra.Vehicle
