import BookCensus.Unicode.Category

/-!
# Scripts

Every code point belongs to one script, and some are used in others as well.
-/

namespace BookCensus.Unicode

open Text

/-- The runs of code points of one script from zero upwards: the four letters of
the script, then the length of the run in base sixteen. -/
def scriptTable : String :=
  "Zyyy41 Latn1a Zyyy6 Latn1a Zyyy2f Latn1 Zyyyf Latn1 Zyyy5 Latn17 Zyyy1 Latn1f Zyyy1 Latn1c1
    Zyyy27 Latn5 Zyyy5 Bopo2 Zyyy14 Zinh70 Grek4 Zyyy1 Grek3 Zzzz2 Grek4 Zyyy1 Grek1 Zzzz4 Grek1
    Zyyy1 Grek1 Zyyy1 Grek3 Zzzz1 Grek1 Zzzz1 Grek14 Zzzz1 Grek3f Copte Grek10 Cyrl85 Zinh2 Cyrla9
    Zzzz1 Armn26 Zzzz2 Armn32 Zzzz2 Armn3 Zzzz1 Hebr37 Zzzz8 Hebr1b Zzzz4 Hebr6 Zzzzb Arab5 Zyyy1
    Arab6 Zyyy1 Arabe Zyyy1 Arab3 Zyyy1 Arab20 Zyyy1 Araba Zinhb Arab1a Zinh1 Arab6c Zyyy1 Arab22
    Syrce Zzzz1 Syrc3c Zzzz2 Syrc3 Arab30 Thaa32 Zzzze Nkoo3b Zzzz2 Nkoo3 Samr2e Zzzz2 Samrf Zzzz1
    Mand1c Zzzz2 Mand1 Zzzz1 Syrcb Zzzz5 Arab22 Zzzz5 Arab4b Zyyy1 Arab1d Deva51 Zinh4 Devaf Zyyy2
    Deva1a Beng4 Zzzz1 Beng8 Zzzz2 Beng2 Zzzz2 Beng16 Zzzz1 Beng7 Zzzz1 Beng1 Zzzz3 Beng4 Zzzz2
    Beng9 Zzzz2 Beng2 Zzzz2 Beng4 Zzzz8 Beng1 Zzzz4 Beng2 Zzzz1 Beng5 Zzzz2 Beng19 Zzzz2 Guru3
    Zzzz1 Guru6 Zzzz4 Guru2 Zzzz2 Guru16 Zzzz1 Guru7 Zzzz1 Guru2 Zzzz1 Guru2 Zzzz1 Guru2 Zzzz2
    Guru1 Zzzz1 Guru5 Zzzz4 Guru2 Zzzz2 Guru3 Zzzz3 Guru1 Zzzz7 Guru4 Zzzz1 Guru1 Zzzz7 Guru11
    Zzzza Gujr3 Zzzz1 Gujr9 Zzzz1 Gujr3 Zzzz1 Gujr16 Zzzz1 Gujr7 Zzzz1 Gujr2 Zzzz1 Gujr5 Zzzz2
    Gujra Zzzz1 Gujr3 Zzzz1 Gujr3 Zzzz2 Gujr1 Zzzzf Gujr4 Zzzz2 Gujrc Zzzz7 Gujr7 Zzzz1 Orya3
    Zzzz1 Orya8 Zzzz2 Orya2 Zzzz2 Orya16 Zzzz1 Orya7 Zzzz1 Orya2 Zzzz1 Orya5 Zzzz2 Orya9 Zzzz2
    Orya2 Zzzz2 Orya3 Zzzz7 Orya3 Zzzz4 Orya2 Zzzz1 Orya5 Zzzz2 Orya12 Zzzza Taml2 Zzzz1 Taml6
    Zzzz3 Taml3 Zzzz1 Taml4 Zzzz3 Taml2 Zzzz1 Taml1 Zzzz1 Taml2 Zzzz3 Taml2 Zzzz3 Taml3 Zzzz3
    Tamlc Zzzz4 Taml5 Zzzz3 Taml3 Zzzz1 Taml4 Zzzz2 Taml1 Zzzz6 Taml1 Zzzze Taml15 Zzzz5 Telud
    Zzzz1 Telu3 Zzzz1 Telu17 Zzzz1 Telu10 Zzzz2 Telu9 Zzzz1 Telu3 Zzzz1 Telu4 Zzzz7 Telu2 Zzzz1
    Telu3 Zzzz1 Telu2 Zzzz2 Telu4 Zzzz2 Telua Zzzz7 Telu9 Kndad Zzzz1 Knda3 Zzzz1 Knda17 Zzzz1
    Kndaa Zzzz1 Knda5 Zzzz2 Knda9 Zzzz1 Knda3 Zzzz1 Knda4 Zzzz7 Knda2 Zzzz5 Knda3 Zzzz1 Knda4
    Zzzz2 Kndaa Zzzz1 Knda3 Zzzzc Mlymd Zzzz1 Mlym3 Zzzz1 Mlym33 Zzzz1 Mlym3 Zzzz1 Mlym6 Zzzz4
    Mlym10 Zzzz2 Mlym1a Zzzz1 Sinh3 Zzzz1 Sinh12 Zzzz3 Sinh18 Zzzz1 Sinh9 Zzzz1 Sinh1 Zzzz2 Sinh7
    Zzzz3 Sinh1 Zzzz4 Sinh6 Zzzz1 Sinh1 Zzzz1 Sinh8 Zzzz6 Sinha Zzzz2 Sinh3 Zzzzc Thai3a Zzzz4
    Zyyy1 Thai1c Zzzz25 Laoo2 Zzzz1 Laoo1 Zzzz1 Laoo5 Zzzz1 Laoo18 Zzzz1 Laoo1 Zzzz1 Laoo17 Zzzz2
    Laoo5 Zzzz1 Laoo1 Zzzz1 Laoo7 Zzzz1 Laooa Zzzz2 Laoo4 Zzzz20 Tibt48 Zzzz1 Tibt24 Zzzz4 Tibt27
    Zzzz1 Tibt24 Zzzz1 Tibtf Zzzz1 Tibt7 Zyyy4 Tibt2 Zzzz25 Mymra0 Geor26 Zzzz1 Geor1 Zzzz5 Geor1
    Zzzz2 Geor2b Zyyy1 Geor4 Hang100 Ethi49 Zzzz1 Ethi4 Zzzz2 Ethi7 Zzzz1 Ethi1 Zzzz1 Ethi4 Zzzz2
    Ethi29 Zzzz1 Ethi4 Zzzz2 Ethi21 Zzzz1 Ethi4 Zzzz2 Ethi7 Zzzz1 Ethi1 Zzzz1 Ethi4 Zzzz2 Ethif
    Zzzz1 Ethi39 Zzzz1 Ethi4 Zzzz2 Ethi43 Zzzz2 Ethi20 Zzzz3 Ethi1a Zzzz6 Cher56 Zzzz2 Cher6 Zzzz2
    Cans280 Ogam1d Zzzz3 Runr4b Zyyy3 Runrb Zzzz7 Tglg16 Zzzz9 Tglg1 Hano15 Zyyy2 Zzzz9 Buhd14
    Zzzzc Tagbd Zzzz1 Tagb3 Zzzz1 Tagb2 Zzzzc Khmr5e Zzzz2 Khmra Zzzz6 Khmra Zzzz6 Mong2 Zyyy2
    Mong1 Zyyy1 Mong14 Zzzz6 Mong59 Zzzz7 Mong2b Zzzz5 Cans46 Zzzza Limb1f Zzzz1 Limbc Zzzz4 Limbc
    Zzzz4 Limb1 Zzzz3 Limbc Tale1e Zzzz2 Tale5 Zzzzb Talu2c Zzzz4 Talu1a Zzzz6 Talub Zzzz3 Talu2
    Khmr20 Bugi1c Zzzz2 Bugi2 Lana3f Zzzz1 Lana1d Zzzz2 Lanab Zzzz6 Lanaa Zzzz6 Lanae Zzzz2 Zinh2e
    Zzzz2 Zinhc Zzzz14 Bali4d Zzzz1 Bali32 Sund40 Batk34 Zzzz8 Batk4 Lepc38 Zzzz3 Lepcf Zzzz3
    Lepc3 Olck30 Cyrlb Zzzz5 Geor2b Zzzz2 Geor3 Sund8 Zzzz8 Zinh3 Zyyy1 Zinhd Zyyy1 Zinh7 Zyyy4
    Zinh1 Zyyy6 Zinh1 Zyyy3 Zinh2 Zyyy1 Zzzz5 Latn26 Grek5 Cyrl1 Latn31 Grek5 Latn4 Grek5 Latnd
    Cyrl1 Latn46 Grek1 Zinh40 Latn100 Grek16 Zzzz2 Grek6 Zzzz2 Grek26 Zzzz2 Grek6 Zzzz2 Grek8
    Zzzz1 Grek1 Zzzz1 Grek1 Zzzz1 Grek1 Zzzz1 Grek1f Zzzz2 Grek35 Zzzz1 Grekf Zzzz1 Greke Zzzz2
    Grek6 Zzzz1 Grek13 Zzzz2 Grek3 Zzzz1 Grek9 Zzzz1 Zyyyc Zinh2 Zyyy57 Zzzz1 Zyyyb Latn1 Zzzz2
    Zyyyb Latn1 Zyyyf Zzzz1 Latnd Zzzz3 Zyyy22 Zzzze Zinh21 Zzzzf Zyyy26 Grek1 Zyyy3 Latn2 Zyyy6
    Latn1 Zyyy1b Latn1 Zyyy11 Latn29 Zyyy3 Zzzz4 Zyyy29a Zzzz16 Zyyyb Zzzz15 Zyyy3a0 Brai100
    Zyyy274 Zzzz2 Zyyy8a Glag60 Latn20 Copt74 Zzzz5 Copt7 Geor26 Zzzz1 Geor1 Zzzz5 Geor1 Zzzz2
    Tfng38 Zzzz7 Tfng2 Zzzze Tfng1 Ethi17 Zzzz9 Ethi7 Zzzz1 Ethi7 Zzzz1 Ethi7 Zzzz1 Ethi7 Zzzz1
    Ethi7 Zzzz1 Ethi7 Zzzz1 Ethi7 Zzzz1 Ethi7 Zzzz1 Cyrl20 Zyyy5e Zzzz22 Hani1a Zzzz1 Hani59 Zzzzc
    Hanid6 Zzzz1a Zyyy15 Hani1 Zyyy1 Hani1 Zyyy19 Hani9 Zinh4 Hang2 Zyyy8 Hani4 Zyyy4 Zzzz1 Hira56
    Zzzz2 Zinh2 Zyyy2 Hira3 Zyyy1 Kana5a Zyyy2 Kana3 Zzzz5 Bopo2b Zzzz1 Hang5e Zzzz1 Zyyy10 Bopo20
    Zyyy26 Zzzz9 Zyyy1 Kana10 Hang1f Zzzz1 Zyyy40 Hang1f Zyyy51 Kana2f Zyyy1 Kana58 Zyyya8
    Hani19c0 Zyyy40 Hani5200 Yiii48d Zzzz3 Yiii37 Zzzz9 Lisu30 Vaii12c Zzzz14 Cyrl60 Bamu58 Zzzz8
    Zyyy22 Latn66 Zyyy3 Latn52 Zzzz14 Latnf Sylo2d Zzzz3 Zyyya Zzzz6 Phag38 Zzzz8 Saur46 Zzzz8
    Saurc Zzzz6 Deva20 Kali2e Zyyy1 Kali1 Rjng24 Zzzzb Rjng1 Hang1d Zzzz3 Java4e Zzzz1 Zyyy1 Javaa
    Zzzz4 Java2 Mymr1f Zzzz1 Cham37 Zzzz9 Chame Zzzz2 Chama Zzzz2 Cham4 Mymr20 Tavt43 Zzzz18 Tavt5
    Mtei17 Zzzza Ethi6 Zzzz2 Ethi6 Zzzz2 Ethi6 Zzzz9 Ethi7 Zzzz1 Ethi7 Zzzz1 Latn2b Zyyy1 Latn9
    Grek1 Latn4 Zyyy2 Zzzz4 Cher50 Mtei2e Zzzz2 Mteia Zzzz6 Hang2ba4 Zzzzc Hang17 Zzzz4 Hang31
    Zzzz2104 Hani16e Zzzz2 Hani6a Zzzz26 Latn7 Zzzzc Armn5 Zzzz5 Hebr1a Zzzz1 Hebr5 Zzzz1 Hebr1
    Zzzz1 Hebr2 Zzzz1 Hebr2 Zzzz1 Hebra Arab1ee Zyyy2 Arab90 Zzzz20 Arab10 Zinh10 Zyyya Zzzz6
    Zinhe Cyrl2 Zyyy23 Zzzz1 Zyyy13 Zzzz1 Zyyy4 Zzzz4 Arab5 Zzzz1 Arab87 Zzzz2 Zyyy1 Zzzz1 Zyyy20
    Latn1a Zyyy6 Latn1a Zyyyb Kanaa Zyyy1 Kana2d Zyyy2 Hang1f Zzzz3 Hang6 Zzzz2 Hang6 Zzzz2 Hang6
    Zzzz2 Hang3 Zzzz3 Zyyy7 Zzzz1 Zyyy7 Zzzza Zyyy5 Zzzz2 Linbc Zzzz1 Linb1a Zzzz1 Linb13 Zzzz1
    Linb2 Zzzz1 Linbf Zzzz2 Linbe Zzzz22 Linb7b Zzzz5 Zyyy3 Zzzz4 Zyyy2d Zzzz3 Zyyy9 Grek4f Zzzz1
    Zyyyd Zzzz3 Grek1 Zzzz2f Zyyy2d Zinh1 Zzzz82 Lyci1d Zzzz3 Cari31 Zzzzf Zinh1 Zyyy1b Zzzz4
    Ital24 Zzzz9 Ital3 Goth1b Zzzz5 Perm2b Zzzz5 Ugar1e Zzzz1 Ugar1 Xpeo24 Zzzz4 Xpeoe Zzzz2a
    Dsrt50 Shaw30 Osma1e Zzzz2 Osmaa Zzzz6 Osge24 Zzzz4 Osge24 Zzzz4 Elba28 Zzzz8 Aghb34 Zzzzb
    Aghb1 Vithb Zzzz1 Vithf Zzzz1 Vith7 Zzzz1 Vith2 Zzzz1 Vithb Zzzz1 Vithf Zzzz1 Vith7 Zzzz1
    Vith2 Zzzz3 Todr34 Zzzzc Lina137 Zzzz9 Lina16 Zzzza Lina8 Zzzz18 Latn6 Zzzz1 Latn2a Zzzz1
    Latn9 Zzzz45 Cprt6 Zzzz2 Cprt1 Zzzz1 Cprt2c Zzzz1 Cprt2 Zzzz3 Cprt1 Zzzz2 Cprt1 Armi16 Zzzz1
    Armi9 Palm20 Nbat1f Zzzz8 Nbat9 Zzzz30 Hatr13 Zzzz1 Hatr2 Zzzz5 Hatr5 Phnx1c Zzzz3 Phnx1
    Lydi1a Zzzz5 Lydi1 Zzzz40 Mero20 Merc18 Zzzz4 Merc14 Zzzz2 Merc2e Khar4 Zzzz1 Khar2 Zzzz5
    Khar8 Zzzz1 Khar3 Zzzz1 Khar1d Zzzz2 Khar3 Zzzz4 Khara Zzzz7 Khar9 Zzzz7 Sarb20 Narb20 Zzzz20
    Mani27 Zzzz4 Manic Zzzz9 Avst36 Zzzz3 Avst7 Prti16 Zzzz2 Prti8 Phli13 Zzzz5 Phli8 Phlp12 Zzzz7
    Phlp4 Zzzzc Phlp7 Zzzz50 Orkh49 Zzzz37 Hung33 Zzzzd Hung33 Zzzz7 Hung6 Rohg28 Zzzz8 Rohga
    Zzzz6 Gara26 Zzzz3 Gara1d Zzzz8 Gara2 Zzzzd0 Arab1f Zzzz1 Yezi2a Zzzz1 Yezi3 Zzzz2 Yezi2
    Zzzz10 Arab6 Zzzz8 Arab9 Zzzz21 Arab6 Sogo28 Zzzz8 Sogd2a Zzzz16 Ougr1a Zzzz26 Chrs1c Zzzz14
    Elym17 Zzzz9 Brah4e Zzzz4 Brah24 Zzzz9 Brah1 Kthi43 Zzzza Kthi1 Zzzz2 Sora19 Zzzz7 Soraa Zzzz6
    Cakm35 Zzzz1 Cakm12 Zzzz8 Mahj27 Zzzz9 Shrd60 Zzzz1 Sinh14 Zzzzb Khoj12 Zzzz1 Khoj2f Zzzz3e
    Mult7 Zzzz1 Mult1 Zzzz1 Mult4 Zzzz1 Multf Zzzz1 Multb Zzzz6 Sind3b Zzzz5 Sinda Zzzz6 Gran4
    Zzzz1 Gran8 Zzzz2 Gran2 Zzzz2 Gran16 Zzzz1 Gran7 Zzzz1 Gran2 Zzzz1 Gran5 Zzzz1 Zinh1 Gran9
    Zzzz2 Gran2 Zzzz2 Gran3 Zzzz2 Gran1 Zzzz6 Gran1 Zzzz5 Gran7 Zzzz2 Gran7 Zzzz3 Gran5 Zzzzb
    Tutga Zzzz1 Tutg1 Zzzz2 Tutg1 Zzzz1 Tutg26 Zzzz1 Tutga Zzzz1 Tutg1 Zzzz2 Tutg1 Zzzz1 Tutg4
    Zzzz1 Tutga Zzzz1 Tutg2 Zzzz8 Tutg2 Zzzz1d Newa5c Zzzz1 Newa5 Zzzz1e Tirh48 Zzzz8 Tirha Zzzza6
    Sidd36 Zzzz2 Sidd26 Zzzz22 Modi45 Zzzzb Modia Zzzz6 Mongd Zzzz13 Takr3a Zzzz6 Takra Zzzz6
    Mymr14 Zzzz1c Ahom1b Zzzz2 Ahomf Zzzz4 Ahom17 Zzzzb9 Dogr3c Zzzz64 Wara53 Zzzzc Wara1 Diak7
    Zzzz2 Diak1 Zzzz2 Diak8 Zzzz1 Diak2 Zzzz1 Diak1e Zzzz1 Diak2 Zzzz2 Diakc Zzzz9 Diaka Zzzz46
    Nand8 Zzzz2 Nand2e Zzzz2 Nandb Zzzz1b Zanb48 Zzzz8 Soyo53 Zzzzd Cans10 Pauc39 Zzzz7 Devaa
    Zzzz56 Shrd8 Zzzz58 Sunu22 Zzzze Sunua Zzzz6 Bhks9 Zzzz1 Bhks2d Zzzz1 Bhkse Zzzza Bhks1d Zzzz3
    Marc20 Zzzz2 Marc16 Zzzz1 Marce Zzzz49 Gonm7 Zzzz1 Gonm2 Zzzz1 Gonm2c Zzzz3 Gonm1 Zzzz1 Gonm2
    Zzzz1 Gonm9 Zzzz8 Gonma Zzzz6 Gong6 Zzzz1 Gong2 Zzzz1 Gong25 Zzzz1 Gong2 Zzzz1 Gong6 Zzzz7
    Gonga Zzzz136 Maka19 Zzzz7 Kawi11 Zzzz1 Kawi29 Zzzz3 Kawi1d Zzzz55 Lisu1 Zzzzf Taml32 Zzzzd
    Taml1 Xsux39a Zzzz66 Xsux6f Zzzz1 Xsux5 Zzzzb Xsuxc4 Zzzza4c Cpmn63 Zzzzd Egyp456 Zzzza
    Egypf9b Zzzz5 Hluw247 Zzzz1ab9 Gukh3a Zzzz6c6 Bamu239 Zzzz7 Mroo1f Zzzz1 Mrooa Zzzz4 Mroo2
    Tnsa4f Zzzz1 Tnsaa Zzzz6 Bass1e Zzzz2 Bass6 Zzzza Hmng46 Zzzza Hmnga Zzzz1 Hmng7 Zzzz1 Hmng15
    Zzzz5 Hmng13 Zzzz1b0 Krai3a Zzzzc6 Medf5b Zzzz65 Plrd4b Zzzz4 Plrd39 Zzzz7 Plrd11 Zzzz40 Tang1
    Nshu1 Hani2 Kits1 Zzzzb Hani7 Zzzz9 Tang1b00 Kits1d6 Zzzz29 Kits1 Tang1f Zzzz61 Tang73
    Zzzz21fd Kana4 Zzzz1 Kana7 Zzzz1 Kana2 Zzzz1 Kana1 Hira11f Kana3 Zzzzf Hira1 Zzzz1d Hira3
    Zzzz2 Kana1 Zzzze Kana4 Zzzz8 Nshu18c Zzzz904 Dupl6b Zzzz5 Dupld Zzzz3 Dupl9 Zzzz7 Dupla Zzzz2
    Dupl4 Zyyy4 Zzzzf5c Zyyyfd Zzzz3 Zyyy1b4 Zzzz6 Zyyy17 Zzzzf Zyyy11 Zzzzf Zinh2e Zzzz2 Zinh17
    Zzzz9 Zyyy74 Zzzz3c Zyyyf6 Zzzza Zyyy27 Zzzz2 Zyyy3e Zinh3 Zyyy11 Zinh8 Zyyy2 Zinh7 Zyyy1e
    Zinh4 Zyyy3d Zzzz15 Grek46 Zzzz7a Zyyy14 Zzzzc Zyyy14 Zzzzc Zyyy57 Zzzz9 Zyyy19 Zzzz87 Zyyy55
    Zzzz1 Zyyy47 Zzzz1 Zyyy2 Zzzz2 Zyyy1 Zzzz2 Zyyy2 Zzzz2 Zyyy4 Zzzz1 Zyyyc Zzzz1 Zyyy1 Zzzz1
    Zyyy7 Zzzz1 Zyyy41 Zzzz1 Zyyy4 Zzzz2 Zyyy8 Zzzz1 Zyyy7 Zzzz1 Zyyy1c Zzzz1 Zyyy4 Zzzz1 Zyyy5
    Zzzz1 Zyyy1 Zzzz3 Zyyy7 Zzzz1 Zyyy154 Zzzz2 Zyyy124 Zzzz2 Zyyy32 Sgnw28c Zzzzf Sgnw5 Zzzz1
    Sgnwf Zzzz450 Latn1f Zzzz6 Latn6 Zzzzd5 Glag7 Zzzz1 Glag11 Zzzz2 Glag7 Zzzz1 Glag2 Zzzz1 Glag5
    Zzzz5 Cyrl3e Zzzz21 Cyrl1 Zzzz70 Hmnp2d Zzzz3 Hmnpe Zzzz2 Hmnpa Zzzz4 Hmnp2 Zzzz140 Toto1f
    Zzzz11 Wcho3a Zzzz5 Wcho1 Zzzz1d0 Nagm2a Zzzzd6 Onao2b Zzzz4 Onao1 Zzzz1e0 Ethi7 Zzzz1 Ethi4
    Zzzz1 Ethi2 Zzzz1 Ethif Zzzz1 Mendc5 Zzzz2 Mend10 Zzzz29 Adlm4c Zzzz4 Adlma Zzzz4 Adlm2
    Zzzz311 Zyyy44 Zzzz4c Zyyy3d Zzzzc2 Arab4 Zzzz1 Arab1b Zzzz1 Arab2 Zzzz1 Arab1 Zzzz2 Arab1
    Zzzz1 Araba Zzzz1 Arab4 Zzzz1 Arab1 Zzzz1 Arab1 Zzzz6 Arab1 Zzzz4 Arab1 Zzzz1 Arab1 Zzzz1
    Arab1 Zzzz1 Arab3 Zzzz1 Arab2 Zzzz1 Arab1 Zzzz2 Arab1 Zzzz1 Arab1 Zzzz1 Arab1 Zzzz1 Arab1
    Zzzz1 Arab1 Zzzz1 Arab2 Zzzz1 Arab1 Zzzz2 Arab4 Zzzz1 Arab7 Zzzz1 Arab4 Zzzz1 Arab4 Zzzz1
    Arab1 Zzzz1 Araba Zzzz1 Arab11 Zzzz5 Arab3 Zzzz1 Arab5 Zzzz1 Arab11 Zzzz34 Arab2 Zzzz10e
    Zyyy2c Zzzz4 Zyyy64 Zzzzc Zyyyf Zzzz2 Zyyyf Zzzz1 Zyyyf Zzzz1 Zyyy25 Zzzza Zyyyae Zzzz38
    Zyyy1a Hira1 Zyyy2 Zzzzd Zyyy2c Zzzz4 Zyyy9 Zzzz7 Zyyy2 Zzzze Zyyy6 Zzzz9a Zyyy3d9 Zzzz3
    Zyyy11 Zzzz3 Zyyyd Zzzz3 Zyyyda Zzzz6 Zyyyc Zzzz4 Zyyy1 Zzzzf Zyyyc Zzzz4 Zyyy38 Zzzz8 Zyyya
    Zzzz6 Zyyy28 Zzzz8 Zyyy1e Zzzz2 Zyyyc Zzzz4 Zyyy2 Zzzze Zyyy9 Zzzz27 Zyyy158 Zzzz8 Zyyye Zzzz2
    Zyyyd Zzzz3 Zyyyb Zzzz3 Zyyy39 Zzzz1 Zyyy1 Zzzz4 Zyyy10 Zzzz2 Zyyyc Zzzz4 Zyyya Zzzz7 Zyyy93
    Zzzz1 Zyyy67 Zzzz405 Hania6e0 Zzzz20 Hani111e Zzzz2 Hani168e Zzzz2 Hani1d31 Zzzzf Hani26e
    Zzzz9a2 Hani21e Zzzz5e2 Hani134b Zzzz5 Hani212a Zzzzacb87 Zyyy1 Zzzz1e Zyyy60 Zzzz80 Zinhf0
    Zzzz2fe10"

/-- The code points that are used in scripts other than their own: a range in
base sixteen, an equals sign, and the letters of those scripts. -/
def scriptExtensionTable : String :=
  "b7-b7=AvstCariCoptDuplElbaGeorGlagGongGothGrekHaniLatnLydiMahjPermShaw
    2bc-2bc=BengCyrlDevaLatnLisuThaiToto 2c7-2c7=BopoLatn 2c9-2cb=BopoLatn 2cd-2cd=LatnLisu
    2d7-2d7=LatnThai 2d9-2d9=BopoLatn 300-300=CherCoptCyrlGrekLatnPermSunuTale
    301-301=CherCyrlGrekLatnOsgeSunuTaleTodr 302-302=CherCyrlLatnTfng 303-303=GlagLatnSunuSyrcThai
    304-304=AghbCherCoptCyrlGothGrekLatnOsgeSyrcTfngTodr 305-305=CoptElbaGlagGothKanaLatn
    306-306=CyrlGrekLatnPermTfng 307-307=CoptDuplHebrLatnPermSyrcTaleTfngTodr
    308-308=ArmnCyrlDuplGothGrekHebrLatnPermSyrcTaleTfng 309-309=LatnTfng 30a-30a=DuplLatnSyrc
    30b-30b=CherCyrlLatnOsge 30c-30c=CherLatnTale 30d-30d=LatnSunu 30e-30e=EthiLatn
    310-310=LatnSunu 311-311=CyrlLatnTodr 313-313=GrekLatnPermTodr
    323-323=CherDuplKanaLatnSyrcTfng 324-324=CherDuplLatnSyrc 325-325=LatnSyrc
    32d-32d=LatnSunuSyrc 32e-32e=LatnSyrc 330-330=CherLatnSyrc
    331-331=AghbCherGothLatnSunuSyrcThai 342-342=Grek 345-345=Grek 358-358=LatnOsge
    35e-35e=AghbLatnTodr 363-36f=Latn 374-374=CoptGrek 375-375=Copt 483-483=Perm 484-484=Glag
    485-486=CyrlLatn 487-487=Glag 589-589=GeorGlag 60c-60c=ArabGaraNkooRohgSyrcThaaYezi
    61b-61b=ArabGaraNkooRohgSyrcThaaYezi 61c-61c=SyrcThaa 61f-61f=AdlmArabGaraNkooRohgSyrcThaaYezi
    640-640=AdlmArabMandManiOugrPhlpRohgSogdSyrc 64b-655=ArabSyrc 660-669=ThaaYezi
    670-670=ArabSyrc 6d4-6d4=Rohg
    951-951=BengDevaGranGujrGuruKndaLatnMlymNandNewaOryaShrdTamlTeluTirh
    952-952=BengDevaGranGujrGuruKndaLatnMlymNewaOryaTamlTeluTirh
    964-964=BengDevaDogrGongGonmGranGujrGuruKndaMahjMlymNandOnaoOryaSindSinhSyloTakrTamlTeluTirh
    965-965=BengDevaDogrGongGonmGranGujrGukhGuruKndaLimbMahjMlymNandOnaoOryaSindSinhSyloTakrTamlTeluTirh
    966-96f=DogrKthiMahj 9e6-9ef=CakmSylo a66-a6f=Mult ae6-aef=Khoj be6-bf3=Gran ce6-cef=NandTutg
    1040-1049=CakmTale 10fb-10fb=GeorGlagLatn 16eb-16ed=Runr 1735-1736=BuhdHanoTagbTglg
    1802-1803=MongPhag 1805-1805=MongPhag 1cd0-1cd0=BengDevaGranKnda 1cd1-1cd1=Deva
    1cd2-1cd2=BengDevaGranKnda 1cd3-1cd3=DevaGranKnda 1cd4-1cd4=Deva
    1cd5-1cd5=BengDevaNewaTeluTirh 1cd6-1cd6=BengDevaTelu 1cd7-1cd7=DevaNewaShrd
    1cd8-1cd8=BengDevaNewaTelu 1cd9-1cd9=DevaShrd 1cda-1cda=DevaKndaMlymOryaTamlTelu
    1cdb-1cdb=Deva 1cdc-1cdd=DevaShrd 1cde-1cdf=Deva 1ce0-1ce0=DevaShrd 1ce1-1ce1=BengDeva
    1ce2-1ce2=DevaNewaTirh 1ce3-1ce8=Deva 1ce9-1ce9=DevaNandNewa 1cea-1cea=BengDevaShrd
    1ceb-1ceb=DevaNewa 1cec-1cec=Deva 1ced-1ced=BengDevaNewaShrd 1cee-1cf1=Deva
    1cf2-1cf2=BengDevaGranKndaMlymNandOryaSinhTeluTirhTutg 1cf3-1cf3=DevaGran
    1cf4-1cf4=DevaGranKndaTutg 1cf5-1cf6=BengDeva 1cf7-1cf7=Beng 1cf8-1cf9=DevaGran 1cfa-1cfa=Nand
    1dc0-1dc1=Grek 1df8-1df8=CyrlLatnSyrc 1dfa-1dfa=Syrc 202f-202f=LatnMongPhag 204f-204f=AdlmArab
    205a-205a=CariGeorGlagHungLyciOrkh 205d-205d=CariGrekHungMero 20f0-20f0=DevaGranLatn
    2e17-2e17=CoptLatn 2e30-2e30=AvstOrkh 2e31-2e31=AvstCariGeorHungKthiLydiSamr 2e3c-2e3c=Dupl
    2e41-2e41=AdlmArabHung 2e43-2e43=CyrlGlag 2ff0-2fff=HaniTang
    3001-3001=BopoHangHaniHiraKanaMongYiii 3002-3002=BopoHangHaniHiraKanaMongPhagYiii
    3003-3003=BopoHangHaniHiraKana 3006-3006=Hani 3008-3009=BopoHangHaniHiraKanaMongTibtYiii
    300a-300b=BopoHangHaniHiraKanaLisuMongTibtYiii 300c-3011=BopoHangHaniHiraKanaYiii
    3013-3013=BopoHangHaniHiraKana 3014-301b=BopoHangHaniHiraKanaYiii
    301c-301f=BopoHangHaniHiraKana 302a-302d=BopoHani 3030-3030=BopoHangHaniHiraKana
    3031-3035=HiraKana 3037-3037=BopoHangHaniHiraKana 303c-303d=HaniHiraKana 303e-303f=Hani
    3099-309c=HiraKana 30a0-30a0=HiraKana 30fb-30fb=BopoHangHaniHiraKanaYiii 30fc-30fc=HiraKana
    3190-319f=Hani 31c0-31e5=Hani 31ef-31ef=HaniTang 3220-3247=Hani 3280-32b0=Hani 32c0-32cb=Hani
    32ff-32ff=Hani 3358-3370=Hani 337b-337f=Hani 33e0-33fe=Hani a66f-a66f=Glag a700-a707=HaniLatn
    a830-a832=DevaDogrGujrGuruKhojKndaKthiMahjMlymModiNandShrdSindTakrTirhTutg
    a833-a835=DevaDogrGujrGuruKhojKndaKthiMahjModiNandShrdSindTakrTirhTutg
    a836-a837=DevaDogrGujrGuruKhojKthiMahjModiSindTakrTirh
    a838-a838=DevaDogrGujrGuruKhojKthiMahjModiShrdSindTakrTirh
    a839-a839=DevaDogrGujrGuruKhojKthiMahjModiSindTakrTirh a8f1-a8f1=BengTutg a8f3-a8f3=Taml
    a92e-a92e=KaliLatnMymr a9cf-a9cf=BugiJava fd3e-fd3f=ArabNkoo fdf2-fdf2=Thaa fdfd-fdfd=Thaa
    fe45-fe46=BopoHangHaniHiraKana ff61-ff65=BopoHangHaniHiraKanaYiii ff70-ff70=HiraKana
    ff9e-ff9f=HiraKana 10100-10101=CpmnCprtLinb 10102-10102=CprtLinb 10107-10133=CprtLinaLinb
    10137-1013f=CprtLinb 102e0-102fb=ArabCopt 10af2-10af2=Ougr 11301-11301=Taml 11303-11303=Taml
    1133b-1133b=GranTaml 1133c-1133c=Taml 11fd0-11fd1=Gran 11fd3-11fd3=Gran 1bca0-1bca3=Dupl
    1d360-1d371=Hani 1f250-1f251=Hani"

/-- The four letters of each script and its long names in lower case. -/
def scriptNameTable : String :=
  "Adlm=adlam Aghb=caucasianalbanian Ahom=ahom Arab=arabic Armi=imperialaramaic Armn=armenian
    Avst=avestan Bali=balinese Bamu=bamum Bass=bassavah Batk=batak Beng=bengali Bhks=bhaiksuki
    Bopo=bopomofo Brah=brahmi Brai=braille Bugi=buginese Buhd=buhid Cakm=chakma
    Cans=canadianaboriginal Cari=carian Cham=cham Cher=cherokee Chrs=chorasmian Copt=coptic=qaac
    Cpmn=cyprominoan Cprt=cypriot Cyrl=cyrillic Deva=devanagari Diak=divesakuru Dogr=dogra
    Dsrt=deseret Dupl=duployan Egyp=egyptianhieroglyphs Elba=elbasan Elym=elymaic Ethi=ethiopic
    Gara=garay Geor=georgian Glag=glagolitic Gong=gunjalagondi Gonm=masaramgondi Goth=gothic
    Gran=grantha Grek=greek Gujr=gujarati Gukh=gurungkhema Guru=gurmukhi Hang=hangul Hani=han
    Hano=hanunoo Hatr=hatran Hebr=hebrew Hira=hiragana Hluw=anatolianhieroglyphs Hmng=pahawhhmong
    Hmnp=nyiakengpuachuehmong Hrkt=katakanaorhiragana Hung=oldhungarian Ital=olditalic
    Java=javanese Kali=kayahli Kana=katakana Kawi=kawi Khar=kharoshthi Khmr=khmer Khoj=khojki
    Kits=khitansmallscript Knda=kannada Krai=kiratrai Kthi=kaithi Lana=taitham Laoo=lao Latn=latin
    Lepc=lepcha Limb=limbu Lina=lineara Linb=linearb Lisu=lisu Lyci=lycian Lydi=lydian
    Mahj=mahajani Maka=makasar Mand=mandaic Mani=manichaean Marc=marchen Medf=medefaidrin
    Mend=mendekikakui Merc=meroiticcursive Mero=meroitichieroglyphs Mlym=malayalam Modi=modi
    Mong=mongolian Mroo=mro Mtei=meeteimayek Mult=multani Mymr=myanmar Nagm=nagmundari
    Nand=nandinagari Narb=oldnortharabian Nbat=nabataean Newa=newa Nkoo=nko Nshu=nushu Ogam=ogham
    Olck=olchiki Onao=olonal Orkh=oldturkic Orya=oriya Osge=osage Osma=osmanya Ougr=olduyghur
    Palm=palmyrene Pauc=paucinhau Perm=oldpermic Phag=phagspa Phli=inscriptionalpahlavi
    Phlp=psalterpahlavi Phnx=phoenician Plrd=miao Prti=inscriptionalparthian Rjng=rejang
    Rohg=hanifirohingya Runr=runic Samr=samaritan Sarb=oldsoutharabian Saur=saurashtra
    Sgnw=signwriting Shaw=shavian Shrd=sharada Sidd=siddham Sind=khudawadi Sinh=sinhala
    Sogd=sogdian Sogo=oldsogdian Sora=sorasompeng Soyo=soyombo Sund=sundanese Sunu=sunuwar
    Sylo=sylotinagri Syrc=syriac Tagb=tagbanwa Takr=takri Tale=taile Talu=newtailue Taml=tamil
    Tang=tangut Tavt=taiviet Telu=telugu Tfng=tifinagh Tglg=tagalog Thaa=thaana Thai=thai
    Tibt=tibetan Tirh=tirhuta Tnsa=tangsa Todr=todhri Toto=toto Tutg=tulutigalari Ugar=ugaritic
    Vaii=vai Vith=vithkuqi Wara=warangciti Wcho=wancho Xpeo=oldpersian Xsux=cuneiform Yezi=yezidi
    Yiii=yi Zanb=zanabazarsquare Zinh=inherited=qaai Zyyy=common Zzzz=unknown"

/-- The runs of code points of one script, with their ends. -/
def scriptRuns : List (List Char × Nat × Nat) :=
  readRuns 4 0 (words scriptTable.toList)

/-- The letters of a script cut into groups of four. -/
def scriptCodes : Nat → List Char → List (List Char)
  | 0, _ => []
  | _, [] => []
  | fuel + 1, cs => cs.take 4 :: scriptCodes fuel (cs.drop 4)

/-- The ranges used in other scripts, with those scripts. -/
def scriptExtensions : List ((Nat × Nat) × List (List Char)) :=
  (words scriptExtensionTable.toList).map fun entry =>
    let range := entry.takeWhile (· != '=')
    let codes := (entry.dropWhile (· != '=')).drop 1
    let low := range.takeWhile (· != '-')
    let high := (range.dropWhile (· != '-')).drop 1
    ((hexadecimalValue low, hexadecimalValue high), scriptCodes codes.length codes)

/-- The four letters of the script that a name in lower case stands for. -/
def scriptCode? (name : String) : Option (List Char) :=
  (words scriptNameTable.toList).findSome? fun entry =>
    match entry.splitOn '=' with
    | code :: names =>
        if lowerChars code == name.toList || names.contains name.toList then some code else none
    | [] => none

/-- The characters of the script that a name in lower case stands for. -/
def script? (name : String) : Option CharSet :=
  (scriptCode? name).map fun code =>
    .ofRanges ((scriptRuns.filter fun run => run.1 == code).map (·.2))

/-- The characters used in the script that a name in lower case stands for.  A
character that is used in some scripts is counted there and not under the
scripts `Common` and `Inherited`. -/
def scriptExtension? (name : String) : Option CharSet := do
  let code ← scriptCode? name
  let own ← script? name
  let used := scriptExtensions.filter fun entry => entry.2.contains code
  let extended : CharSet := .ofRanges (scriptExtensions.map (·.1))
  let own := if code == "Zyyy".toList || code == "Zinh".toList then own.diff extended else own
  some (own.union (.ofRanges (used.map (·.1))))

end BookCensus.Unicode
