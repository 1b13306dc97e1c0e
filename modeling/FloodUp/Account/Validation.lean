import Mathlib
import FloodUp.Account.Session
import FloodUp.App.Theorems
import FloodUp.Text.Search

/-!
# The checks of the login and sign-up forms

`ProcessSignUp` and `ProcessLogin` are chains of checks: the first that fails opens its dialog,
and if none does the texts are handed to Firebase. Both test the email with the same pattern,
anchored at the start of the text only, so that a text passes which merely begins like an
address, while an address whose second label begins with a digit does not.
`validated_iff` says for which emails the test, and with it the whole form, does what it should.
-/

namespace FloodUp

open Async Text

/-! ## The email test -/

def letters : List Char := charRange 'a' 'z' ++ charRange 'A' 'Z'

def digits : List Char := charRange '0' '9'

/-- `[a-zA-Z0-9.]+@[a-zA-Z0-9]+\.[a-zA-Z]+`. -/
def emailPattern : RegularExpression Char :=
  oneOrMore (oneOf (letters ++ digits ++ ['.'])) * .char '@' *
    oneOrMore (oneOf (letters ++ digits)) * .char '.' * oneOrMore (oneOf letters)

/-- `RegExp(r"^...").hasMatch(text)`, written out in `signup.dart` and again in `login.dart`. -/
def emailValid (text : String) : Bool := matchesStart emailPattern text.toList

/-! ## The forms -/

/-- The length of a Dart string, in UTF-16 code units. -/
def codeUnits (text : String) : ℕ := (text.toList.map fun c => if c.toNat < 0x10000 then 1 else 2).sum

/-- A chain of checks, each with the message of its dialog; `submit` is what follows the chain. -/
def checked (me : Caller) (checks : List (Bool × String)) (submit : Dart Unit) : Dart Unit :=
  match checks.find? (·.1) with
  | some (_, message) => do
    let _ ← showDialog me message
  | none => submit

/-- The fields of `_SignUpState`. -/
structure SignUpForm where
  textName : String
  textEmail : String
  textPassword : String
  textConPassword : String
  isReadPrivacy : Bool
  isSubscribed : Bool

def SignUpForm.checks (f : SignUpForm) : List (Bool × String) :=
  [(f.textName.isEmpty, "error_name_empty"),
   (f.textEmail.isEmpty, "error_email_empty"),
   (!emailValid f.textEmail, "error_email_invalid"),
   (f.textPassword.isEmpty, "error_password_empty"),
   (codeUnits f.textPassword < 6, "error_password_invalid"),
   (f.textConPassword.isEmpty, "error_conpassword_empty"),
   (f.textConPassword ≠ f.textPassword, "error_password_notmatch"),
   (!f.isReadPrivacy, "error_privacy_empty")]

/-- `ProcessSignUp`. -/
def processSignUp (me : Caller) (f : SignUpForm) : Dart Unit :=
  checked me f.checks
    (registerUserToFireBase me f.textEmail f.textPassword f.textName
      (if f.isSubscribed then "Yes" else "No"))

def LoginPage.checks (p : LoginPage) : List (Bool × String) :=
  [(p.textEmail.isEmpty, "error_email_empty"),
   (!emailValid p.textEmail, "error_email_invalid"),
   (p.textPassword.isEmpty, "error_password_empty"),
   (codeUnits p.textPassword < 6, "error_password_invalid")]

/-- `ProcessLogin`. -/
def processLogin (me : Caller) : Dart Unit := do
  let w ← Routine.get
  let p := w.login me.page
  checked me p.checks (loginToFireBase me p.textEmail p.textPassword)

/-! ## What the forms should do -/

/-- Labels of letters and digits, separated by single dots, the last of letters only. -/
structure IsDomain (labels : List (List Char)) (last : List Char) : Prop where
  labels : ∀ label ∈ labels ++ [last], label ≠ [] ∧ ∀ c ∈ label, c.isAlphanum = true
  last : ∀ c ∈ last, c.isAlpha = true

def domainText (labels : List (List Char)) (last : List Char) : List Char :=
  List.intercalate ['.'] (labels ++ [last])

/-- An address: a local part of letters, digits and dots, and a domain of two or more labels. -/
def IsAddress (text : String) : Prop :=
  ∃ name labels last, text.toList = name ++ '@' :: domainText labels last ∧
    name ≠ [] ∧ (∀ c ∈ name, c.isAlphanum = true ∨ c = '.') ∧ labels ≠ [] ∧ IsDomain labels last

/-- The email test tells the addresses from the other texts. -/
def EmailAgrees (text : String) : Prop := emailValid text = true ↔ IsAddress text

/-- The content of a form that is to be handed on. -/
structure SignUpForm.Accepted (f : SignUpForm) : Prop where
  name : f.textName ≠ ""
  email : IsAddress f.textEmail
  password : 6 ≤ codeUnits f.textPassword
  confirmed : f.textPassword = f.textConPassword
  privacy : f.isReadPrivacy = true

/-- Run from `w`, the routine ends without any call, having opened one dialog. -/
def Refuses (me : Caller) (w : World) (t : Dart Unit) : Prop :=
  ∃ message, t.Runs w (.ok ()) ((w.push (.dialog message)).note (.dialog me.op message))

/-- The form is handed to the registration, and the same email and password to the login, exactly
if it is to be accepted. -/
structure SignUpAgrees (f : SignUpForm) : Prop where
  registers : f.Accepted → ∀ me, processSignUp me f =
    registerUserToFireBase me f.textEmail f.textPassword f.textName
      (if f.isSubscribed then "Yes" else "No")
  forwards : f.Accepted → ∀ me w, w.login me.page = ⟨f.textEmail, f.textPassword⟩ →
    (processLogin me).advance w =
      (loginToFireBase me f.textEmail f.textPassword).advance w
  refuses : ¬f.Accepted → ∀ me w, w.mounted me.page = true → Refuses me w (processSignUp me f)

/-- What follows the first dot of the domain, if the text begins with a local part, `@`, a label and
a dot. -/
def domainTail (text : String) : Option (List Char) :=
  (splitOff (fun c => c.isAlphanum || c == '.') '@' text.toList).bind (splitOff Char.isAlphanum '.')

/-- What follows the first dot of the domain begins with a letter exactly if it is a domain. -/
def RegularEmail (text : String) : Prop :=
  ∀ rest, domainTail text = some rest → (rest.head?.any Char.isAlpha = true ↔
    ∃ labels last, rest = domainText labels last ∧ IsDomain labels last)

/-! ## The email test -/

theorem mem_letters {c : Char} : c ∈ letters ↔ c.isAlpha = true := by
  rw [letters, List.mem_append, mem_charRange (by decide), mem_charRange (by decide), or_comm]
  simp only [Char.isAlpha, Char.isUpper, Char.isLower, Bool.or_eq_true, Bool.and_eq_true,
    decide_eq_true_eq, UInt32.le_iff_toNat_le, ge_iff_le]
  exact Iff.rfl

theorem mem_digits {c : Char} : c ∈ digits ↔ c.isDigit = true := by
  rw [digits, mem_charRange (by decide)]
  simp only [Char.isDigit, Bool.and_eq_true, decide_eq_true_eq, UInt32.le_iff_toNat_le, ge_iff_le]
  exact Iff.rfl

theorem mem_alphanum {c : Char} : c ∈ letters ++ digits ↔ c.isAlphanum = true := by
  rw [List.mem_append, mem_letters, mem_digits, Char.isAlphanum, Bool.or_eq_true]

/-- The two scans of `domainTail`. -/
theorem domainTail_eq_some {text : String} {rest : List Char} : domainTail text = some rest ↔
    ∃ name label, text.toList = name ++ '@' :: (label ++ '.' :: rest) ∧
      name ≠ [] ∧ (∀ c ∈ name, c.isAlphanum = true ∨ c = '.') ∧
      label ≠ [] ∧ ∀ c ∈ label, c.isAlphanum = true := by
  have hat : (fun c : Char => c.isAlphanum || c == '.') '@' = false := rfl
  have hdot : Char.isAlphanum '.' = false := rfl
  unfold domainTail
  rw [Option.bind_eq_some_iff]
  constructor
  · rintro ⟨domain, hdomain, hrest⟩
    obtain ⟨name, hname, hlocal, htext⟩ := (splitOff_eq_some hat).mp hdomain
    obtain ⟨label, hlabel, halphanum, rfl⟩ := (splitOff_eq_some hdot).mp hrest
    refine ⟨name, label, htext, hname, ?_, hlabel, halphanum⟩
    intro c hc
    simpa using hlocal c hc
  · rintro ⟨name, label, htext, hname, hlocal, hlabel, halphanum⟩
    refine ⟨label ++ '.' :: rest, (splitOff_eq_some hat).mpr ⟨name, hname, ?_, htext⟩,
      (splitOff_eq_some hdot).mpr ⟨label, hlabel, halphanum, rfl⟩⟩
    intro c hc
    simpa using hlocal c hc

/-- The pattern in words. -/
theorem mem_emailPattern {start : List Char} : start ∈ emailPattern.matches' ↔
    ∃ name label tail, start = name ++ '@' :: (label ++ '.' :: tail) ∧
      name ≠ [] ∧ (∀ c ∈ name, c.isAlphanum = true ∨ c = '.') ∧
      label ≠ [] ∧ (∀ c ∈ label, c.isAlphanum = true) ∧
      tail ≠ [] ∧ ∀ c ∈ tail, c.isAlpha = true := by
  have hlocal : ∀ c, c ∈ letters ++ digits ++ ['.'] ↔ c.isAlphanum = true ∨ c = '.' := by
    intro c
    rw [List.mem_append, mem_alphanum, List.mem_singleton]
  simp only [emailPattern, RegularExpression.matches'_mul, Language.mem_mul, mem_oneOrMore_oneOf,
    hlocal, mem_alphanum, mem_letters]
  constructor
  · rintro ⟨_, ⟨_, ⟨_, ⟨name, hname, _, rfl, rfl⟩, label, hlabel, rfl⟩, _, rfl, rfl⟩, tail, htail, rfl⟩
    exact ⟨name, label, tail, by simp, hname.1, hname.2, hlabel.1, hlabel.2, htail⟩
  · rintro ⟨name, label, tail, rfl, hname, hlocal, hlabel, halphanum, htail⟩
    refine ⟨_, ⟨_, ⟨_, ⟨name, ⟨hname, hlocal⟩, ['@'], rfl, rfl⟩, label, ⟨hlabel, halphanum⟩, rfl⟩,
      ['.'], rfl, rfl⟩, tail, htail, ?_⟩
    simp

/-- The search looks at the first character behind the first dot of the domain, and no further. -/
theorem emailValid_iff {text : String} : emailValid text = true ↔
    ∃ rest, domainTail text = some rest ∧ rest.head?.any Char.isAlpha = true := by
  rw [emailValid, matchesStart_iff]
  constructor
  · rintro ⟨start, hstart, after, htext⟩
    obtain ⟨name, label, tail, rfl, hname, hlocal, hlabel, halphanum, htail, halpha⟩ :=
      mem_emailPattern.mp hstart
    refine ⟨tail ++ after, domainTail_eq_some.mpr ⟨name, label, ?_, hname, hlocal, hlabel,
      halphanum⟩, ?_⟩
    · rw [← htext]
      simp
    · cases tail with
      | nil => exact absurd rfl htail
      | cons c tail => exact halpha c (.head _)
  · rintro ⟨rest, hrest, halpha⟩
    obtain ⟨name, label, htext, hname, hlocal, hlabel, halphanum⟩ := domainTail_eq_some.mp hrest
    cases rest with
    | nil => simp at halpha
    | cons c rest =>
      -- one letter is enough
      refine ⟨name ++ '@' :: (label ++ '.' :: [c]), mem_emailPattern.mpr ⟨name, label, [c], rfl, hname,
        hlocal, hlabel, halphanum, by simp, ?_⟩, rest, ?_⟩
      · intro c' hc'
        rw [List.mem_singleton.mp hc']
        exact halpha
      · rw [htext]
        simp

theorem domainText_cons {label : List Char} {labels : List (List Char)} {last : List Char} :
    domainText (label :: labels) last = label ++ '.' :: domainText labels last := by
  unfold domainText
  cases labels <;> simp [List.intercalate]

/-- So an address whose second label begins with a digit does not pass. -/
example : emailValid "a@b.1c.com" = false := by
  have htail : domainTail "a@b.1c.com" = some "1c.com".toList := rfl
  rw [Bool.eq_false_iff]
  intro h
  obtain ⟨rest, hrest, hletter⟩ := emailValid_iff.mp h
  rw [htail] at hrest
  rw [← Option.some.inj hrest] at hletter
  -- behind the first dot stands a digit
  cases hletter

theorem isAddress_iff {text : String} : IsAddress text ↔ ∃ rest, domainTail text = some rest ∧
    ∃ labels last, rest = domainText labels last ∧ IsDomain labels last := by
  constructor
  · rintro ⟨name, labels, last, htext, hname, hlocal, hne, hdomain⟩
    cases labels with
    -- the scan takes one label away, and an address has one to spare
    | nil => exact absurd rfl hne
    | cons label labels =>
      rw [domainText_cons] at htext
      have hlabels := hdomain.labels
      rw [List.cons_append, List.forall_mem_cons] at hlabels
      exact ⟨_, domainTail_eq_some.mpr ⟨name, label, htext, hname, hlocal, hlabels.1⟩, labels, last,
        rfl, hlabels.2, hdomain.last⟩
  · rintro ⟨rest, hrest, labels, last, rfl, hdomain⟩
    obtain ⟨name, label, htext, hname, hlocal, hlabel⟩ := domainTail_eq_some.mp hrest
    refine ⟨name, label :: labels, last, ?_, hname, hlocal, by simp, ?_, hdomain.last⟩
    · rw [domainText_cons]
      exact htext
    · rw [List.cons_append, List.forall_mem_cons]
      exact ⟨hlabel, hdomain.labels⟩

/-- The test agrees with the addresses exactly on the regular texts. -/
theorem emailAgrees_iff {text : String} : EmailAgrees text ↔ RegularEmail text := by
  rw [EmailAgrees, RegularEmail, emailValid_iff, isAddress_iff]
  cases domainTail text with
  | none => simp
  | some rest => simp

/-! ## The chains of checks -/

theorem checked_passed {me : Caller} {checks : List (Bool × String)} {submit : Dart Unit}
    (h : ∀ check ∈ checks, check.1 = false) : checked me checks submit = submit := by
  have hnone : checks.find? (·.1) = none := by
    rw [List.find?_eq_none]
    intro check hcheck
    simp [h check hcheck]
  unfold checked
  rw [hnone]

/-- A check that fails keeps everything behind the chain from happening. -/
theorem checked_refuses {me : Caller} {w : World} {checks : List (Bool × String)}
    {submit : Dart Unit} (hw : w.mounted me.page = true) (h : ∃ check ∈ checks, check.1 = true) :
    Refuses me w (checked me checks submit) := by
  obtain ⟨check, hcheck⟩ : ∃ check, checks.find? (·.1) = some check := by
    rw [← Option.isSome_iff_exists, List.find?_isSome]
    exact h
  refine ⟨check.2, ?_⟩
  unfold checked
  rw [hcheck]
  exact (showDialog_runs hw).bind rfl

theorem isEmpty_false_iff {text : String} : text.isEmpty = false ↔ text ≠ "" := by
  rw [Bool.eq_false_iff, ne_eq, String.isEmpty_iff]

theorem emailValid_ne_empty {text : String} (h : emailValid text = true) : text ≠ "" := by
  rintro rfl
  obtain ⟨rest, hrest, -⟩ := emailValid_iff.mp h
  have hnone : domainTail "" = none := rfl
  rw [hnone] at hrest
  cases hrest

theorem codeUnits_pos {text : String} (h : 6 ≤ codeUnits text) : text ≠ "" := by
  rintro rfl
  exact absurd h (by decide)

/-- The eight checks of the sign-up form come to five: an empty email is not valid, and an empty
password or confirmation is too short. -/
theorem SignUpForm.checks_passed_iff {f : SignUpForm} : (∀ check ∈ f.checks, check.1 = false) ↔
    f.textName ≠ "" ∧ emailValid f.textEmail = true ∧ 6 ≤ codeUnits f.textPassword ∧
      f.textPassword = f.textConPassword ∧ f.isReadPrivacy = true := by
  unfold SignUpForm.checks
  simp only [List.forall_mem_cons, List.not_mem_nil, false_implies, implies_true, and_true, isEmpty_false_iff,
    Bool.not_eq_false', decide_eq_false_iff_not, not_lt, ne_eq, not_not]
  constructor
  · rintro ⟨hname, -, hvalid, -, hpassword, -, hconfirmed, hprivacy⟩
    exact ⟨hname, hvalid, hpassword, hconfirmed.symm, hprivacy⟩
  · rintro ⟨hname, hvalid, hpassword, hconfirmed, hprivacy⟩
    have hnonempty := codeUnits_pos hpassword
    exact ⟨hname, emailValid_ne_empty hvalid, hvalid, hnonempty, hpassword, hconfirmed ▸ hnonempty,
      hconfirmed.symm, hprivacy⟩

/-- What passes the sign-up form passes the login form. -/
theorem LoginPage.checks_passed {p : LoginPage} (hvalid : emailValid p.textEmail = true)
    (hpassword : 6 ≤ codeUnits p.textPassword) : ∀ check ∈ p.checks, check.1 = false := by
  unfold LoginPage.checks
  simp only [List.forall_mem_cons, List.not_mem_nil, false_implies, implies_true, and_true, isEmpty_false_iff,
    Bool.not_eq_false', decide_eq_false_iff_not, not_lt]
  exact ⟨emailValid_ne_empty hvalid, hvalid, codeUnits_pos hpassword, hpassword⟩

/-! ## When the forms do what they should -/

theorem signUpAgrees {f : SignUpForm} (hemail : EmailAgrees f.textEmail) : SignUpAgrees f := by
  have haccepted : f.Accepted ↔ ∀ check ∈ f.checks, check.1 = false := by
    have hvalid : emailValid f.textEmail = true ↔ IsAddress f.textEmail := hemail
    rw [SignUpForm.checks_passed_iff, hvalid]
    constructor
    · intro h
      exact ⟨h.name, h.email, h.password, h.confirmed, h.privacy⟩
    · rintro ⟨hname, haddress, hpassword, hconfirmed, hprivacy⟩
      exact ⟨hname, haddress, hpassword, hconfirmed, hprivacy⟩
  constructor
  · intro h me
    exact checked_passed (haccepted.mp h)
  · intro h me w hlogin
    have hpassed : ∀ check ∈ (w.login me.page).checks, check.1 = false := by
      rw [hlogin]
      exact LoginPage.checks_passed (hemail.mpr h.email) h.password
    show (checked me (w.login me.page).checks _).advance w = _
    rw [checked_passed hpassed, hlogin]
  · intro h me w hw
    apply checked_refuses hw
    -- else no check fails, and the form is to be accepted
    by_contra hnone
    apply h
    rw [haccepted]
    intro check hcheck
    simpa using fun hfails => hnone ⟨check, hcheck, hfails⟩

/-- **The email test, and with it the form, does what it should exactly on the regular emails.** -/
theorem validated_iff (f : SignUpForm) :
    EmailAgrees f.textEmail ∧ SignUpAgrees f ↔ RegularEmail f.textEmail := by
  rw [← emailAgrees_iff]
  constructor
  · intro h
    exact h.1
  · intro hemail
    exact ⟨hemail, signUpAgrees hemail⟩

/-- There is nothing in a domain but letters, digits and dots. -/
theorem mem_domainText {labels : List (List Char)} {last : List Char} (h : IsDomain labels last)
    {c : Char} (hc : c ∈ domainText labels last) : c.isAlphanum = true ∨ c = '.' := by
  induction labels with
  | nil =>
    have hc : c ∈ last := by simpa [domainText, List.intercalate] using hc
    exact .inl ((h.labels last (by simp)).2 c hc)
  | cons label labels ih =>
    rw [domainText_cons, List.mem_append, List.mem_cons] at hc
    have hlabels := h.labels
    rw [List.cons_append, List.forall_mem_cons] at hlabels
    rcases hc with hc | rfl | hc
    · exact .inl (hlabels.1.2 c hc)
    -- the separating dot
    · exact .inr rfl
    · exact ih ⟨hlabels.2, h.last⟩ hc

/-- A form that is right but for what follows the address. -/
def mistypedForm : SignUpForm where
  textName := "Ann"
  textEmail := "a@b.c!"
  textPassword := "secret"
  textConPassword := "secret"
  isReadPrivacy := true
  isSubscribed := false

theorem mistypedForm_not_accepted : ¬mistypedForm.Accepted := by
  intro h
  obtain ⟨rest, hrest, labels, last, hdomain, hlabels⟩ := isAddress_iff.mp h.email
  have htail : domainTail mistypedForm.textEmail = some ['c', '!'] := rfl
  rw [htail] at hrest
  have hmark : '!' ∈ domainText labels last := by
    rw [← hdomain, ← Option.some.inj hrest]
    exact .tail _ (.head _)
  rcases mem_domainText hlabels hmark with h | h <;> cases h

/-- The mistyped email passes the test, and the form is registered. -/
theorem mistyped_email_registered :
    (¬∀ f : SignUpForm, EmailAgrees f.textEmail ∧ SignUpAgrees f) ∧
      ∀ me, processSignUp me mistypedForm =
        registerUserToFireBase me "a@b.c!" "secret" "Ann" "No" := by
  have hvalid : emailValid mistypedForm.textEmail = true :=
    emailValid_iff.mpr ⟨['c', '!'], rfl, rfl⟩
  constructor
  · intro hall
    have haddress := (hall mistypedForm).1.mp hvalid
    exact mistypedForm_not_accepted ⟨by decide, haddress, by decide, rfl, rfl⟩
  · intro me
    exact checked_passed (SignUpForm.checks_passed_iff.mpr
      ⟨by decide, hvalid, by decide, rfl, rfl⟩)

end FloodUp
