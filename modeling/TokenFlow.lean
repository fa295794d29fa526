import TokenFlow.Advertisement
import TokenFlow.Main
import TokenFlow.Proofs.Fallback
import TokenFlow.Proofs.KeyIdentity
import TokenFlow.Proofs.RenewalOrigin
import TokenFlow.Proofs.Interleaving
import TokenFlow.Proofs.Taxonomy
import TokenFlow.Proofs.WriteOnce
import TokenFlow.Proofs.CallOrder
import TokenFlow.Proofs.Release
import TokenFlow.Proofs.DelegatedCall
import TokenFlow.Proofs.WholeSeconds
import TokenFlow.Proofs.Polling
import TokenFlow.Proofs.KeptSession
import TokenFlow.Proofs.BlankCredential
import TokenFlow.Proofs.Secrecy
import TokenFlow.Proofs.QueryRoundTrip
import TokenFlow.Proofs.AddedQuery
import TokenFlow.Proofs.CallbackRoundTrip
import TokenFlow.Proofs.StatusOrder
import TokenFlow.Proofs.EndpointSources
import TokenFlow.Proofs.Acceptance
import TokenFlow.Proofs.BaseAddress
import TokenFlow.Proofs.AdvertisedAddress
import TokenFlow.Proofs.AnnouncedLifetime
import TokenFlow.Proofs.ReuseWindow
import TokenFlow.Proofs.IssuerMetadata
import TokenFlow.Proofs.ExchangeFailures
import TokenFlow.Proofs.FailurePage
import TokenFlow.Proofs.DrawnKeys
