import WebAuth.AuthorizationGrammar
import WebAuth.GroupPaths
import WebAuth.KeyIdEvidence
import WebAuth.KeySetDocuments
import WebAuth.LogoutTokens
import WebAuth.LoginRuns
import WebAuth.RouteAnswers
import WebAuth.PolicyHeaders
import WebAuth.ReturnPaths
import WebAuth.PendingEviction
import WebAuth.SessionCookies
import WebAuth.StoredInstants
import WebAuth.SessionLifetimeRuns
import WebAuth.RowOwnership
import WebAuth.SignInRoutes
import WebAuth.Dependencies
import WebAuth.GrantCalls
import WebAuth.GroupsDecision
import WebAuth.RefreshRotation
import WebAuth.CookieGates
import WebAuth.Mediation
import WebAuth.IdentityKinds
import WebAuth.LinkRoundTrip
import WebAuth.LoginOutcome
import WebAuth.LimiterRuns
import WebAuth.ResponseStarts
import WebAuth.TokenUses
import WebAuth.DecisionTable
import WebAuth.ServiceCallerCheck
import WebAuth.CallerDecision
import WebAuth.BackchannelLogout
import WebAuth.SessionCap
import WebAuth.AuditTrail
import WebAuth.ResourceSeparation
import WebAuth.ProxyChains
import WebAuth.ProxyNetworks
import WebAuth.RateLimitKeys
import WebAuth.ContentSecurityPolicy
import WebAuth.EndSessionPolicy
import WebAuth.MarkedRoutes
import WebAuth.CanonicalBase64url
import WebAuth.HttpsTransports
