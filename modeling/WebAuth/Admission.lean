import WebAuth.Python.Text

/-!
# Who may enter

The issuer's group paths decide whether a person is a member of the app and whether as an admin.
-/

namespace WebAuth

open Python

/-- `_is_below`. -/
def isBelow (groupPath group : Str) : Bool := startsWith group (groupPath ++ str "/")

/-- `_is_member_of`. -/
def isMemberOf (groupPath : Str) (groups : List Str) : Bool :=
  groups.any fun group => group = groupPath || isBelow groupPath group

/-- What `_require_group_path` asks of the segments of a group path. -/
def IsGroupPath (path : Str) : Prop :=
  (split (chr '/') path).head? = some [] ∧ 2 ≤ (split (chr '/') path).length ∧
    ∀ segment ∈ (split (chr '/') path).tail, segment ≠ []

/-- `AdmissionConfig`. A `loginGroup` of `none` is `EverySubject.OF_THE_BOUND_ISSUER`, an
`adminGroup` of `none` is `NoAdmins.IN_THIS_APP`. -/
structure AdmissionConfig where
  boundIssuer : Str
  loginGroup : Option Str
  adminGroup : Option Str
  login_isGroupPath : ∀ group, loginGroup = some group → IsGroupPath group
  admin_isGroupPath : ∀ group, adminGroup = some group → IsGroupPath group
  admin_below : ∀ login admin, loginGroup = some login → adminGroup = some admin →
    isBelow login admin = true

theorem none_isGroupPath : ∀ group, none = some group → IsGroupPath group := nofun

theorem none_below : ∀ login admin, none = some login → none = some admin →
    isBelow login admin = true := nofun

/-- `AppRole`. -/
inductive AppRole where
  | admin
  | user
  deriving DecidableEq

/-- The string a role is stored as. -/
def AppRole.value : AppRole → Str
  | admin => str "admin"
  | user => str "user"

/-- `app_role`: the role the groups carry, `none` for no member. -/
def appRole (groups : List Str) (admission : AdmissionConfig) : Option AppRole :=
  if admission.loginGroup.any fun group => !isMemberOf group groups then none
  else if admission.adminGroup.any fun group => isMemberOf group groups then some .admin
  else some .user

/-- `AdmissionRefusal`. -/
inductive AdmissionRefusal where
  | foreignIssuer
  | notAMember
  | usernameTaken
  deriving DecidableEq

end WebAuth
