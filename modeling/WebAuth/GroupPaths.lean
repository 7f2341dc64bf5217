import WebAuth.CallerDecision
import WebAuth.GateTables
import WebAuth.Python.Encodings

/-!
# Group paths

Which paths an `AdmissionConfig` may be built from, and that the role a set of groups carries is the
one their segments say.
-/

namespace WebAuth

open Python

/-! ## The constructor -/

/-- A `login_group` or `admin_group` as the constructor is given it: the enumeration member the field
takes, a string, or any other value. -/
inductive GroupArgument where
  | member
  | path (group : Str)
  | other

/-- The path of an argument. -/
def GroupArgument.group : GroupArgument → Option Str
  | path group => some group
  | _ => none

/-- `_FORBIDDEN_PATH_CATEGORIES`. -/
def forbiddenPathCategories : List Str := [str "Cc", str "Cf", str "Zl", str "Zp"]

/-- `_require_group_path`: the text of the `ValueError` it raises, if any. `category` is
`unicodedata.category`. -/
def requireGroupPath (py : Platform) (category : CodePoint → Str) (field path : Str) :
    Except Str Unit :=
  let segments := split (chr '/') path
  if segments.head? ≠ some [] || segments.length < 2 || segments.tail.any (· = []) then
    .error (field ++ str " must be a group path such as /apps/name")
  else if segments.any fun segment => segment ≠ strip py segment then
    .error (field ++ str " must not have whitespace around a segment")
  else if path.any fun character => forbiddenPathCategories.contains (category character) then
    .error (field ++ str " must not contain control, format or line-separator characters")
  else .ok ()

/-- The first half of `__post_init__`. -/
def requireLoginGroup (py : Platform) (category : CodePoint → Str) : GroupArgument → Except Str Unit
  | .member => .ok ()
  | .path login => requireGroupPath py category (str "login_group") login
  | .other => .error (str "login_group must be a group path or EverySubject")

/-- The check of an admin path below a login path. -/
def requireBelow (admin : Str) : GroupArgument → Except Str Unit
  | .path login =>
    if isBelow login admin then .ok ()
    else .error (str "admin_group must lie below login_group, such as " ++ login ++ str "/admin")
  | _ => .ok ()

/-- The second half of `__post_init__`. -/
def requireAdminGroup (py : Platform) (category : CodePoint → Str) (loginGroup : GroupArgument) :
    GroupArgument → Except Str Unit
  | .member => .ok ()
  | .other => .error (str "admin_group must be a group path or NoAdmins")
  | .path admin => do
    requireGroupPath py category (str "admin_group") admin
    requireBelow admin loginGroup

/-- `AdmissionConfig.__post_init__`. -/
def postInit (py : Platform) (category : CodePoint → Str) (loginGroup adminGroup : GroupArgument) :
    Except Str Unit := do
  requireLoginGroup py category loginGroup
  requireAdminGroup py category loginGroup adminGroup

/-! ## What it accepts -/

/-- A group path of these segments. -/
structure GroupPath (py : Platform) (category : CodePoint → Str) (path : Str)
    (segments : List Str) : Prop where
  text : path = chr '/' :: join (chr '/') segments
  ne_nil : segments ≠ []
  nonempty : ∀ segment ∈ segments, segment ≠ []
  single : ∀ segment ∈ segments, chr '/' ∉ segment
  trimmed : ∀ segment ∈ segments, (∀ c, segment.head? = some c → py.isSpace c = false) ∧
    ∀ c, segment.getLast? = some c → py.isSpace c = false
  visible : ∀ c ∈ path, category c ∉ forbiddenPathCategories

/-- The constructor's argument is the enumeration member or a group path. -/
def AcceptedGroup (py : Platform) (category : CodePoint → Str) : GroupArgument → Prop
  | .member => True
  | .path group => ∃ segments, GroupPath py category group segments
  | .other => False

/-- What the constructor accepts. -/
structure AcceptedGroups (py : Platform) (category : CodePoint → Str)
    (loginGroup adminGroup : GroupArgument) : Prop where
  login : AcceptedGroup py category loginGroup
  admin : AcceptedGroup py category adminGroup
  below : ∀ login admin loginSegments adminSegments, loginGroup = .path login →
    adminGroup = .path admin → GroupPath py category login loginSegments →
    GroupPath py category admin adminSegments →
    loginSegments <+: adminSegments ∧ loginSegments ≠ adminSegments

section Constructor

variable {py : Platform} {category : CodePoint → Str} {field path : Str}

/-- The segments of a group path are what stands between its slashes. -/
theorem GroupPath.split_eq {segments : List Str} (h : GroupPath py category path segments) :
    split (chr '/') path = [] :: segments := by
  have hjoin : path = join (chr '/') ([] :: segments) := by
    rw [h.text]
    unfold join
    rw [List.intercalate_cons_of_ne_nil h.ne_nil]
    rfl
  rw [hjoin]
  refine List.splitOn_intercalate _ (fun segment hmem => ?_) (List.cons_ne_nil _ _)
  rcases List.mem_cons.1 hmem with rfl | hmem
  · exact List.not_mem_nil
  · exact h.single segment hmem

theorem requireGroupPath_eq_ok : requireGroupPath py category field path = .ok () ↔
    ∃ segments, GroupPath py category path segments := by
  unfold requireGroupPath
  dsimp only
  constructor
  · intro h
    split_ifs at h with hshape hblank hvisible
    simp only [Bool.or_eq_true, decide_eq_true_eq, List.any_eq_true, not_or, not_exists, not_and,
      not_not, not_lt] at hshape hblank hvisible
    obtain ⟨⟨hhead, hlength⟩, hnonempty⟩ := hshape
    obtain ⟨segments, hsegments⟩ : ∃ segments, split (chr '/') path = [] :: segments := by
      cases hsplit : split (chr '/') path with
      | nil =>
        rw [hsplit] at hhead
        cases hhead
      | cons first segments =>
        rw [hsplit] at hhead
        obtain rfl := Option.some.inj hhead
        exact ⟨segments, rfl⟩
    rw [hsegments] at hlength hnonempty hblank
    have hsome : segments ≠ [] := by
      rintro rfl
      simp at hlength
    refine ⟨segments, ?_, hsome, hnonempty, fun segment hmem hslash => ?_, fun segment hmem => ?_,
      fun c hc hforbidden => hvisible c hc (List.contains_iff_mem.2 hforbidden)⟩
    · have hjoin : join (chr '/') ([] :: segments) = path := by
        rw [← hsegments]
        exact List.intercalate_splitOn _
      rw [← hjoin]
      unfold join
      rw [List.intercalate_cons_of_ne_nil hsome]
      rfl
    · have hin : segment ∈ split (chr '/') path := hsegments ▸ List.mem_cons_of_mem _ hmem
      exact (of_mem_split hin hslash).2 rfl
    · exact rdropWhile_dropWhile_eq_self.1 (hblank segment (List.mem_cons_of_mem _ hmem)).symm
  · rintro ⟨segments, h⟩
    rw [h.split_eq]
    have hpositive := List.length_pos_of_ne_nil h.ne_nil
    rw [if_neg, if_neg, if_neg]
    · simp only [List.any_eq_true, not_exists, not_and]
      exact fun c hc hforbidden => h.visible c hc (List.contains_iff_mem.1 hforbidden)
    · simp only [List.any_eq_true, decide_eq_true_eq, not_exists, not_and, not_not]
      intro segment hmem
      rcases List.mem_cons.1 hmem with rfl | hmem
      · rfl
      · exact (rdropWhile_dropWhile_eq_self.2 (h.trimmed segment hmem)).symm
    · simp only [Bool.or_eq_true, decide_eq_true_eq, List.any_eq_true, not_or, not_exists, not_and,
        not_not, not_lt]
      refine ⟨⟨rfl, ?_⟩, h.nonempty⟩
      rw [List.length_cons]
      omega

/-- One path lies strictly below another exactly when its segments go on from the other's. -/
theorem isBelow_iff_segments {login admin : Str} {loginSegments adminSegments : List Str}
    (hlogin : GroupPath py category login loginSegments)
    (hadmin : GroupPath py category admin adminSegments) :
    isBelow login admin = true ↔
      loginSegments <+: adminSegments ∧ loginSegments ≠ adminSegments := by
  have hstarts : loginSegments <+: adminSegments ↔
      admin = login ∨ ∃ rest, admin = login ++ chr '/' :: rest := by
    rw [← split_prefix_iff, hlogin.split_eq, hadmin.split_eq, List.prefix_cons_inj]
  have hequal : loginSegments = adminSegments ↔ admin = login := by
    rw [← (split_injective (chr '/')).eq_iff, hlogin.split_eq, hadmin.split_eq, List.cons_inj_right,
      eq_comm]
  have hbelow : isBelow login admin = true ↔ ∃ rest, admin = login ++ chr '/' :: rest := by
    rw [isBelow_iff]
    simp only [List.append_assoc]
    exact Iff.rfl
  rw [hstarts, ne_eq, hequal, hbelow]
  constructor
  · rintro ⟨rest, rfl⟩
    exact ⟨.inr ⟨rest, rfl⟩, by simp⟩
  · rintro ⟨heq | hrest, hne⟩
    · exact absurd heq hne
    · exact hrest

theorem requireLoginGroup_eq_ok {loginGroup : GroupArgument} :
    requireLoginGroup py category loginGroup = .ok () ↔ AcceptedGroup py category loginGroup := by
  cases loginGroup with
  | member => exact ⟨fun _ => trivial, fun _ => rfl⟩
  | path login => exact requireGroupPath_eq_ok
  | other => exact ⟨nofun, nofun⟩

theorem both_eq_ok {first second : Except Str Unit} :
    (do first; second) = Except.ok () ↔ first = .ok () ∧ second = .ok () := by
  cases first with
  | error text => exact ⟨nofun, nofun⟩
  | ok value => exact ⟨fun h => ⟨rfl, h⟩, fun h => h.2⟩

theorem requireBelow_eq_ok {loginGroup : GroupArgument} {admin : Str} :
    requireBelow admin loginGroup = .ok () ↔
      ∀ login, loginGroup = .path login → isBelow login admin = true := by
  cases loginGroup with
  | member => exact ⟨fun _ => nofun, fun _ => rfl⟩
  | other => exact ⟨fun _ => nofun, fun _ => rfl⟩
  | path login =>
    unfold requireBelow
    dsimp only
    constructor
    · intro h login' heq
      obtain rfl := GroupArgument.path.inj heq
      split_ifs at h with hbelow
      exact hbelow
    · intro h
      exact if_pos (h login rfl)

theorem postInit_eq_ok {loginGroup adminGroup : GroupArgument} :
    postInit py category loginGroup adminGroup = .ok () ↔
      AcceptedGroups py category loginGroup adminGroup := by
  unfold postInit
  rw [both_eq_ok, requireLoginGroup_eq_ok]
  cases adminGroup with
  | member => exact ⟨fun h => ⟨h.1, trivial, nofun⟩, fun h => ⟨h.login, rfl⟩⟩
  | other => exact ⟨nofun, fun h => absurd h.admin id⟩
  | path admin =>
    unfold requireAdminGroup
    dsimp only
    rw [both_eq_ok, requireGroupPath_eq_ok, requireBelow_eq_ok]
    constructor
    · rintro ⟨hlogin, ⟨segments, hsegments⟩, hbelow⟩
      refine ⟨hlogin, ⟨segments, hsegments⟩, ?_⟩
      intro login admin' loginSegments adminSegments heq heq' hpath hpath'
      obtain rfl := GroupArgument.path.inj heq'
      exact (isBelow_iff_segments hpath hpath').1 (hbelow login heq)
    · rintro ⟨hlogin, ⟨segments, hsegments⟩, hbelow⟩
      refine ⟨hlogin, ⟨segments, hsegments⟩, ?_⟩
      rintro login rfl
      obtain ⟨loginSegments, hpath⟩ := hlogin
      exact (isBelow_iff_segments hpath hsegments).2
        (hbelow login admin loginSegments segments rfl rfl hpath hsegments)

theorem isGroupPath_of_groupPath {segments : List Str} (h : GroupPath py category path segments) :
    IsGroupPath path := by
  have hpositive := List.length_pos_of_ne_nil h.ne_nil
  unfold IsGroupPath
  rw [h.split_eq, List.length_cons]
  exact ⟨rfl, by omega, h.nonempty⟩

end Constructor

/-- `AdmissionConfig(...)`. -/
def admissionConfig (py : Platform) (category : CodePoint → Str) (boundIssuer : Str)
    (loginGroup adminGroup : GroupArgument) : Except Str AdmissionConfig :=
  match h : postInit py category loginGroup adminGroup with
  | .error text => .error text
  | .ok () => .ok
    { boundIssuer := boundIssuer
      loginGroup := loginGroup.group
      adminGroup := adminGroup.group
      login_isGroupPath := fun group hgroup => by
        have haccepted := (postInit_eq_ok.1 h).login
        cases loginGroup with
        | member => cases hgroup
        | other => cases hgroup
        | path login =>
          obtain ⟨segments, hpath⟩ := haccepted
          exact Option.some.inj hgroup ▸ isGroupPath_of_groupPath hpath
      admin_isGroupPath := fun group hgroup => by
        have haccepted := (postInit_eq_ok.1 h).admin
        cases adminGroup with
        | member => cases hgroup
        | other => cases hgroup
        | path admin =>
          obtain ⟨segments, hpath⟩ := haccepted
          exact Option.some.inj hgroup ▸ isGroupPath_of_groupPath hpath
      admin_below := fun login admin hlogin hadmin => by
        have haccepted := postInit_eq_ok.1 h
        cases loginGroup with
        | member => cases hlogin
        | other => cases hlogin
        | path login' =>
          cases adminGroup with
          | member => cases hadmin
          | other => cases hadmin
          | path admin' =>
            obtain ⟨loginSegments, hpath⟩ := haccepted.login
            obtain ⟨adminSegments, hpath'⟩ := haccepted.admin
            obtain rfl := Option.some.inj hlogin
            obtain rfl := Option.some.inj hadmin
            exact (isBelow_iff_segments hpath hpath').2
              (haccepted.below _ _ _ _ rfl rfl hpath hpath') }

theorem admissionConfig_eq_ok {py : Platform} {category : CodePoint → Str} {boundIssuer : Str}
    {loginGroup adminGroup : GroupArgument} :
    (∃ admission, admissionConfig py category boundIssuer loginGroup adminGroup = .ok admission ∧
      admission.loginGroup = loginGroup.group ∧ admission.adminGroup = adminGroup.group) ↔
    AcceptedGroups py category loginGroup adminGroup := by
  rw [← postInit_eq_ok]
  unfold admissionConfig
  constructor
  · rintro ⟨admission, h, -⟩
    split at h
    · cases h
    · assumption
  · intro hinit
    split
    · rename_i text h
      rw [hinit] at h
      cases h
    · exact ⟨_, rfl, rfl, rfl⟩

/-! ## The role -/

/-- A group string counts for a path: the path's segments begin its own. -/
def Counts (path group : Str) : Prop := split (chr '/') path <+: split (chr '/') group

/-- The role of groups by their segments. -/
def SegmentRole (admission : AdmissionConfig) (groups : List Str) : Option AppRole → Prop
  | none => ∃ login, admission.loginGroup = some login ∧ ∀ group ∈ groups, ¬Counts login group
  | some .admin => ∃ admin, admission.adminGroup = some admin ∧ ∃ group ∈ groups, Counts admin group
  | some .user =>
    (∀ login, admission.loginGroup = some login → ∃ group ∈ groups, Counts login group) ∧
      ∀ admin, admission.adminGroup = some admin → ∀ group ∈ groups, ¬Counts admin group

/-- The order of the answers: no member, a user, an admin. -/
def roleRank : Option AppRole → ℕ
  | none => 0
  | some .user => 1
  | some .admin => 2

section Role

variable {admission : AdmissionConfig} {groups : List Str}

theorem counts_iff {path group : Str} :
    Counts path group ↔ group = path ∨ isBelow path group = true := by
  unfold Counts
  rw [split_prefix_iff, isBelow_iff]
  simp only [List.append_assoc]
  exact Iff.rfl

theorem isMemberOf_iff_counts {path : Str} :
    isMemberOf path groups = true ↔ ∃ group ∈ groups, Counts path group := by
  unfold isMemberOf
  simp only [List.any_eq_true, Bool.or_eq_true, decide_eq_true_eq, counts_iff]

/-- What counts for the admin path counts for the login path above it. -/
theorem counts_login {login admin group : Str} (hlogin : admission.loginGroup = some login)
    (hadmin : admission.adminGroup = some admin) (h : Counts admin group) : Counts login group := by
  have hbelow : Counts login admin :=
    counts_iff.2 (.inr (admission.admin_below login admin hlogin hadmin))
  exact hbelow.trans h

theorem not_isMember_iff :
    (admission.loginGroup.any fun group => !isMemberOf group groups) = true ↔
      SegmentRole admission groups none := by
  rw [Option.any_eq_true]
  refine exists_congr fun login => and_congr Iff.rfl ?_
  rw [Bool.not_eq_true', ← Bool.not_eq_true, isMemberOf_iff_counts]
  simp only [not_exists, not_and]

theorem isAdmin_iff :
    (admission.adminGroup.any fun group => isMemberOf group groups) = true ↔
      SegmentRole admission groups (some .admin) := by
  rw [Option.any_eq_true]
  exact exists_congr fun admin => and_congr Iff.rfl isMemberOf_iff_counts

theorem segmentRole_user : SegmentRole admission groups (some .user) ↔
    ¬SegmentRole admission groups none ∧ ¬SegmentRole admission groups (some .admin) := by
  unfold SegmentRole
  simp only [not_exists, not_and, not_forall, not_not, exists_prop]

/-- An admin by the segments is a member by them. -/
theorem not_none_of_admin (h : SegmentRole admission groups (some .admin)) :
    ¬SegmentRole admission groups none := by
  rintro ⟨login, hlogin, hnone⟩
  obtain ⟨admin, hadmin, group, hgroup, hcounts⟩ := h
  exact hnone group hgroup (counts_login hlogin hadmin hcounts)

theorem appRole_iff {role : Option AppRole} :
    appRole groups admission = role ↔ SegmentRole admission groups role := by
  by_cases hnone : SegmentRole admission groups none
  · have hread : appRole groups admission = none := by
      unfold appRole
      rw [if_pos (not_isMember_iff.2 hnone)]
    rw [hread]
    match role with
    | none => exact ⟨fun _ => hnone, fun _ => rfl⟩
    | some .admin => exact ⟨nofun, fun h => absurd hnone (not_none_of_admin h)⟩
    | some .user => exact ⟨nofun, fun h => absurd hnone (segmentRole_user.1 h).1⟩
  · by_cases hadmin : SegmentRole admission groups (some .admin)
    · have hread : appRole groups admission = some .admin := by
        unfold appRole
        rw [if_neg (mt not_isMember_iff.1 hnone), if_pos (isAdmin_iff.2 hadmin)]
      rw [hread]
      match role with
      | none => exact ⟨nofun, fun h => absurd h hnone⟩
      | some .admin => exact ⟨fun _ => hadmin, fun _ => rfl⟩
      | some .user => exact ⟨nofun, fun h => absurd hadmin (segmentRole_user.1 h).2⟩
    · have hread : appRole groups admission = some .user := by
        unfold appRole
        rw [if_neg (mt not_isMember_iff.1 hnone), if_neg (mt isAdmin_iff.1 hadmin)]
      rw [hread]
      match role with
      | none => exact ⟨nofun, fun h => absurd h hnone⟩
      | some .admin => exact ⟨nofun, fun h => absurd h hadmin⟩
      | some .user => exact ⟨fun _ => segmentRole_user.2 ⟨hnone, hadmin⟩, fun _ => rfl⟩

/-- More groups never carry a lesser role. -/
theorem roleRank_mono {groups' : List Str} (h : groups ⊆ groups') :
    roleRank (appRole groups admission) ≤ roleRank (appRole groups' admission) := by
  by_cases hadmin : SegmentRole admission groups (some .admin)
  · obtain ⟨admin, hsome, group, hgroup, hcounts⟩ := hadmin
    have hmore : appRole groups' admission = some .admin :=
      appRole_iff.2 ⟨admin, hsome, group, h hgroup, hcounts⟩
    rw [hmore]
    cases appRole groups admission with
    | none => decide
    | some role => cases role <;> decide
  · by_cases hnone : SegmentRole admission groups none
    · rw [appRole_iff.2 hnone]
      exact Nat.zero_le _
    · rw [appRole_iff.2 (segmentRole_user.2 ⟨hnone, hadmin⟩)]
      have hmember : appRole groups' admission ≠ none := by
        intro hread
        obtain ⟨login, hlogin, hnot⟩ := appRole_iff.1 hread
        exact hnone ⟨login, hlogin, fun group hgroup => hnot group (h hgroup)⟩
      cases hrole : appRole groups' admission with
      | none => exact absurd hrole hmember
      | some role => cases role <;> decide

end Role

/-- **The constructor accepts exactly the group paths, the admin path strictly below the login path,
and the role of a set of groups is the one its segments say.** -/
theorem group_path_admission (py : Platform) (category : CodePoint → Str) :
    (∀ boundIssuer loginGroup adminGroup,
      (∃ admission, admissionConfig py category boundIssuer loginGroup adminGroup = .ok admission ∧
        admission.loginGroup = loginGroup.group ∧ admission.adminGroup = adminGroup.group) ↔
      AcceptedGroups py category loginGroup adminGroup) ∧
    (∀ (admission : AdmissionConfig) (groups : List Str),
      (∀ role, appRole groups admission = role ↔ SegmentRole admission groups role) ∧
      (appRole groups admission = some .admin → ∀ login, admission.loginGroup = some login →
        ∃ group ∈ groups, Counts login group) ∧
      (∀ groups', groups ⊆ groups' →
        roleRank (appRole groups admission) ≤ roleRank (appRole groups' admission)) ∧
      ∀ groups', (∀ group, group ∈ groups ↔ group ∈ groups') →
        appRole groups admission = appRole groups' admission) ∧
    ∀ path c suffix, c ≠ chr '/' → ¬Counts path (path ++ c :: suffix) := by
  refine ⟨fun _ _ _ => admissionConfig_eq_ok, fun admission groups =>
    ⟨fun role => appRole_iff, fun hadmin login hlogin => ?_, fun groups' h => roleRank_mono h,
      fun groups' h => appRole_congr h admission⟩, fun path c suffix hc hcounts => ?_⟩
  · obtain ⟨admin, hsome, group, hgroup, hcounts⟩ := appRole_iff.1 hadmin
    exact ⟨group, hgroup, counts_login hlogin hsome hcounts⟩
  · rcases split_prefix_iff.1 hcounts with heq | ⟨rest, heq⟩
    · simp at heq
    · rw [List.append_cancel_left_eq] at heq
      exact hc (List.cons.inj heq).1

end WebAuth
