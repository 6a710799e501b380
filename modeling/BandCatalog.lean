import BandCatalog.Client.Crowd
import BandCatalog.Main
import BandCatalog.Proofs.Client.Storm
import BandCatalog.Proofs.Renewal.Resumption
import BandCatalog.Proofs.Renewal.Rotation
import BandCatalog.Proofs.Renewal.Settling
import BandCatalog.Proofs.Renewal.Succession
import BandCatalog.Proofs.Renewal.Endings
import BandCatalog.Proofs.Client.Retrying
import BandCatalog.Proofs.Json.RoundTrip
import BandCatalog.Proofs.Client.Bearing
import BandCatalog.Proofs.Credentials.Leftovers
import BandCatalog.Proofs.Storage.Backends
import BandCatalog.Proofs.Client.Standing
import BandCatalog.Proofs.Client.Secrecy
import BandCatalog.Proofs.Client.Leaving
import BandCatalog.Proofs.Cli.Remembering
import BandCatalog.Proofs.Catalog.Bands
import BandCatalog.Proofs.Url.Percent
import BandCatalog.Proofs.Url.Resolving
import BandCatalog.Proofs.Url.Forms
import BandCatalog.Proofs.Client.Listing
import BandCatalog.Proofs.Storage.Untouched
import BandCatalog.Proofs.Settings.Loading
import BandCatalog.Proofs.Cli.Overriding
import BandCatalog.Proofs.Client.Exchanging
import BandCatalog.Proofs.Client.Reporting
import BandCatalog.Proofs.Client.Summaries
import BandCatalog.Proofs.Credentials.Spelling
import BandCatalog.Proofs.Cli.Tables
import BandCatalog.Proofs.Client.Granting
import BandCatalog.Proofs.Http.Replacing
import BandCatalog.Proofs.Text.Excerpts
