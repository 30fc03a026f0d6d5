/-!
# Locale data

The locales for which data exists, and how the parts of a locale identifier are
replaced and completed. Each table is kept as lines of words; a word of a
mapping joins a key and its value by an equals sign.
-/

namespace ResourceAudit.Culture

/-- Identifiers of the known locales. -/
def localeLines : List String := [
  "aa aa_DJ aa_ER aa_ET ab ab_GE af af_NA af_ZA agq agq_CM ak ak_GH am am_ET an an_ES ann",
  "ann_NG apc apc_SY ar ar_001 ar_AE ar_BH ar_DJ ar_DZ ar_EG ar_EH ar_ER ar_IL ar_IQ ar_JO",
  "ar_KM ar_KW ar_LB ar_LY ar_MA ar_MR ar_OM ar_PS ar_QA ar_SA ar_SD ar_SO ar_SS ar_SY ar_TD",
  "ar_TN ar_YE arn arn_CL as as_IN asa asa_TZ ast ast_ES az az_Arab az_Arab_IQ az_Arab_IR",
  "az_Arab_TR az_Cyrl az_Cyrl_AZ az_Latn az_Latn_AZ ba ba_RU bal bal_Arab bal_Arab_PK bal_Latn",
  "bal_Latn_PK bas bas_CM be be_BY be_TARASK bem bem_ZM bew bew_ID bez bez_TZ bg bg_BG bgc",
  "bgc_IN bgn bgn_AE bgn_AF bgn_IR bgn_OM bgn_PK bho bho_IN blo blo_BJ blt blt_VN bm bm_ML",
  "bm_Nkoo bm_Nkoo_ML bn bn_BD bn_IN bo bo_CN bo_IN br br_FR brx brx_IN bs bs_Cyrl bs_Cyrl_BA",
  "bs_Latn bs_Latn_BA bss bss_CM byn byn_ER ca ca_AD ca_ES ca_ES_VALENCIA ca_FR ca_IT cad",
  "cad_US cch cch_NG ccp ccp_BD ccp_IN ce ce_RU ceb ceb_PH cgg cgg_UG cho cho_US chr chr_US cic",
  "cic_US ckb ckb_IQ ckb_IR co co_FR cop cop_EG cs cs_CZ csw csw_CA cu cu_RU cv cv_RU cy cy_GB",
  "da da_DK da_GL dav dav_KE de de_AT de_BE de_CH de_DE de_IT de_LI de_LU dje dje_NE doi doi_IN",
  "dsb dsb_DE dua dua_CM dv dv_MV dyo dyo_SN dz dz_BT ebu ebu_KE ee ee_GH ee_TG el el_CY el_GR",
  "el_POLYTON en en_001 en_150 en_AE en_AG en_AI en_AS en_AT en_AU en_BB en_BE en_BI en_BM",
  "en_BS en_BW en_BZ en_CA en_CC en_CH en_CK en_CM en_CX en_CY en_CZ en_DE en_DG en_DK en_DM",
  "en_Dsrt en_Dsrt_US en_ER en_ES en_FI en_FJ en_FK en_FM en_FR en_GB en_GD en_GG en_GH en_GI",
  "en_GM en_GS en_GU en_GY en_HK en_HU en_ID en_IE en_IL en_IM en_IN en_IO en_IT en_JE en_JM",
  "en_KE en_KI en_KN en_KY en_LC en_LR en_LS en_MG en_MH en_MO en_MP en_MS en_MT en_MU en_MV",
  "en_MW en_MY en_NA en_NF en_NG en_NL en_NO en_NR en_NU en_NZ en_PG en_PH en_PK en_PL en_PN",
  "en_PR en_PT en_PW en_RO en_RW en_SB en_SC en_SD en_SE en_SG en_SH en_SI en_SK en_SL en_SS",
  "en_SX en_SZ en_Shaw en_Shaw_GB en_TC en_TK en_TO en_TT en_TV en_TZ en_UG en_UM en_US",
  "en_US_POSIX en_VC en_VG en_VI en_VU en_WS en_ZA en_ZM en_ZW eo eo_001 es es_419 es_AR es_BO",
  "es_BR es_BZ es_CL es_CO es_CR es_CU es_DO es_EA es_EC es_ES es_GQ es_GT es_HN es_IC es_MX",
  "es_NI es_PA es_PE es_PH es_PR es_PY es_SV es_US es_UY es_VE et et_EE eu eu_ES ewo ewo_CM fa",
  "fa_AF fa_IR ff ff_Adlm ff_Adlm_BF ff_Adlm_CM ff_Adlm_GH ff_Adlm_GM ff_Adlm_GN ff_Adlm_GW",
  "ff_Adlm_LR ff_Adlm_MR ff_Adlm_NE ff_Adlm_NG ff_Adlm_SL ff_Adlm_SN ff_Latn ff_Latn_BF",
  "ff_Latn_CM ff_Latn_GH ff_Latn_GM ff_Latn_GN ff_Latn_GW ff_Latn_LR ff_Latn_MR ff_Latn_NE",
  "ff_Latn_NG ff_Latn_SL ff_Latn_SN fi fi_FI fil fil_PH fo fo_DK fo_FO fr fr_BE fr_BF fr_BI",
  "fr_BJ fr_BL fr_CA fr_CD fr_CF fr_CG fr_CH fr_CI fr_CM fr_DJ fr_DZ fr_FR fr_GA fr_GF fr_GN",
  "fr_GP fr_GQ fr_HT fr_KM fr_LU fr_MA fr_MC fr_MF fr_MG fr_ML fr_MQ fr_MR fr_MU fr_NC fr_NE",
  "fr_PF fr_PM fr_RE fr_RW fr_SC fr_SN fr_SY fr_TD fr_TG fr_TN fr_VU fr_WF fr_YT frr frr_DE fur",
  "fur_IT fy fy_NL ga ga_GB ga_IE gaa gaa_GH gd gd_GB gez gez_ER gez_ET gl gl_ES gn gn_PY gsw",
  "gsw_CH gsw_FR gsw_LI gu gu_IN guz guz_KE gv gv_IM ha ha_Arab ha_Arab_NG ha_Arab_SD ha_GH",
  "ha_NE ha_NG haw haw_US he he_IL hi hi_IN hi_Latn hi_Latn_IN hnj hnj_Hmnp hnj_Hmnp_US hr",
  "hr_BA hr_HR hsb hsb_DE ht ht_HT hu hu_HU hy hy_AM ia ia_001 id id_ID ie ie_EE ig ig_NG ii",
  "ii_CN io io_001 is is_IS it it_CH it_IT it_SM it_VA iu iu_CA iu_Latn iu_Latn_CA ja ja_JP jbo",
  "jbo_001 jgo jgo_CM jmc jmc_TZ jv jv_ID ka ka_GE kaa kaa_Cyrl kaa_Cyrl_UZ kaa_Latn",
  "kaa_Latn_UZ kab kab_DZ kaj kaj_NG kam kam_KE kcg kcg_NG kde kde_TZ kea kea_CV ken ken_CM kgp",
  "kgp_BR khq khq_ML ki ki_KE kk kk_Arab kk_Arab_CN kk_Cyrl kk_Cyrl_KZ kk_KZ kkj kkj_CM kl",
  "kl_GL kln kln_KE km km_KH kn kn_IN ko ko_CN ko_KP ko_KR kok kok_Deva kok_Deva_IN kok_Latn",
  "kok_Latn_IN kpe kpe_GN kpe_LR ks ks_Arab ks_Arab_IN ks_Deva ks_Deva_IN ksb ksb_TZ ksf ksf_CM",
  "ksh ksh_DE ku ku_TR kw kw_GB kxv kxv_Deva kxv_Deva_IN kxv_Latn kxv_Latn_IN kxv_Orya",
  "kxv_Orya_IN kxv_Telu kxv_Telu_IN ky ky_KG la la_VA lag lag_TZ lb lb_LU lg lg_UG lij lij_IT",
  "lkt lkt_US lld lld_IT lmo lmo_IT ln ln_AO ln_CD ln_CF ln_CG lo lo_LA lrc lrc_IQ lrc_IR lt",
  "lt_LT ltg ltg_LV lu lu_CD luo luo_KE luy luy_KE lv lv_LV mai mai_IN mas mas_KE mas_TZ mdf",
  "mdf_RU mer mer_KE mfe mfe_MU mg mg_MG mgh mgh_MZ mgo mgo_CM mhn mhn_IT mi mi_NZ mic mic_CA",
  "mk mk_MK ml ml_IN mn mn_MN mn_Mong mn_Mong_CN mn_Mong_MN mni mni_Beng mni_Beng_IN mni_Mtei",
  "mni_Mtei_IN moh moh_CA mr mr_IN ms ms_Arab ms_Arab_BN ms_Arab_MY ms_BN ms_ID ms_MY ms_SG mt",
  "mt_MT mua mua_CM mus mus_US my my_MM myv myv_RU mzn mzn_IR naq naq_NA nb nb_NO nb_SJ nd",
  "nd_ZW nds nds_DE nds_NL ne ne_IN ne_NP nl nl_AW nl_BE nl_BQ nl_CW nl_NL nl_SR nl_SX nmg",
  "nmg_CM nn nn_NO nnh nnh_CM no nqo nqo_GN nr nr_ZA nso nso_ZA nus nus_SS nv nv_US ny ny_MW",
  "nyn nyn_UG oc oc_ES oc_FR om om_ET om_KE or or_IN os os_GE os_RU osa osa_US pa pa_Arab",
  "pa_Arab_PK pa_Guru pa_Guru_IN pap pap_AW pap_CW pcm pcm_NG pis pis_SB pl pl_PL prg prg_PL ps",
  "ps_AF ps_PK pt pt_AO pt_BR pt_CH pt_CV pt_GQ pt_GW pt_LU pt_MO pt_MZ pt_PT pt_ST pt_TL qu",
  "qu_BO qu_EC qu_PE quc quc_GT raj raj_IN rhg rhg_Rohg rhg_Rohg_BD rhg_Rohg_MM rif rif_MA rm",
  "rm_CH rn rn_BI ro ro_MD ro_RO rof rof_TZ ru ru_BY ru_KG ru_KZ ru_MD ru_RU ru_UA rw rw_RW rwk",
  "rwk_TZ sa sa_IN sah sah_RU saq saq_KE sat sat_Deva sat_Deva_IN sat_Olck sat_Olck_IN sbp",
  "sbp_TZ sc sc_IT scn scn_IT sd sd_Arab sd_Arab_PK sd_Deva sd_Deva_IN sdh sdh_IQ sdh_IR se",
  "se_FI se_NO se_SE seh seh_MZ ses ses_ML sg sg_CF shi shi_Latn shi_Latn_MA shi_Tfng",
  "shi_Tfng_MA shn shn_MM shn_TH si si_LK sid sid_ET sk sk_SK skr skr_PK sl sl_SI sma sma_NO",
  "sma_SE smj smj_NO smj_SE smn smn_FI sms sms_FI sn sn_ZW so so_DJ so_ET so_KE so_SO sq sq_AL",
  "sq_MK sq_XK sr sr_Cyrl sr_Cyrl_BA sr_Cyrl_ME sr_Cyrl_RS sr_Cyrl_XK sr_Latn sr_Latn_BA",
  "sr_Latn_ME sr_Latn_RS sr_Latn_XK ss ss_SZ ss_ZA ssy ssy_ER st st_LS st_ZA su su_Latn",
  "su_Latn_ID sv sv_AX sv_FI sv_SE sw sw_CD sw_KE sw_TZ sw_UG syr syr_IQ syr_SY szl szl_PL ta",
  "ta_IN ta_LK ta_MY ta_SG te te_IN teo teo_KE teo_UG tg tg_TJ th th_TH ti ti_ER ti_ET tig",
  "tig_ER tk tk_TM tn tn_BW tn_ZA to to_TO tok tok_001 tpi tpi_PG tr tr_CY tr_TR trv trv_TW trw",
  "trw_PK ts ts_ZA tt tt_RU twq twq_NE tyv tyv_RU tzm tzm_MA ug ug_CN uk uk_UA ur ur_IN ur_PK",
  "uz uz_Arab uz_Arab_AF uz_Cyrl uz_Cyrl_UZ uz_Latn uz_Latn_UZ vai vai_Latn vai_Latn_LR",
  "vai_Vaii vai_Vaii_LR ve ve_ZA vec vec_IT vi vi_VN vmw vmw_MZ vo vo_001 vun vun_TZ wa wa_BE",
  "wae wae_CH wal wal_ET wbp wbp_AU wo wo_SN xh xh_ZA xnr xnr_IN xog xog_UG yav yav_CM yi yi_UA",
  "yo yo_BJ yo_NG yrl yrl_BR yrl_CO yrl_VE yue yue_Hans yue_Hans_CN yue_Hant yue_Hant_CN",
  "yue_Hant_HK yue_Hant_MO za za_CN zgh zgh_MA zh zh_Hans zh_Hans_CN zh_Hans_HK zh_Hans_MO",
  "zh_Hans_MY zh_Hans_SG zh_Hant zh_Hant_HK zh_Hant_MO zh_Hant_MY zh_Hant_TW zh_Latn zh_Latn_CN",
  "zu zu_ZA root"]

/-- Replacements of deprecated languages. -/
def languageAliasLines : List String := [
  "aar=aa abk=ab adp=dz afr=af ajp=apc aka=ak alb=sq als=sq amh=am ara=ar arb=ar arg=an arm=hy",
  "asm=as aze=az azj=az bak=ba bam=bm baq=eu bcc=bal bel=be ben=bn bh=bho bih=bho bod=bo bos=bs",
  "bre=br bul=bg bur=my bxk=luy cat=ca ces=cs che=ce chi=zh chu=cu chv=cv cld=syr cls=sa cmn=zh",
  "cnr=sr_ME cor=kw cos=co cym=cy cze=cs dan=da deu=de dgo=doi div=dv drh=mn drw=fa_AF dut=nl",
  "dzo=dz ekk=et ell=el eng=en epo=eo est=et eus=eu ewe=ee fao=fo fas=fa fat=ak fin=fi fra=fr",
  "fre=fr fry=fy fuc=ff ful=ff gaz=om geo=ka ger=de gla=gd gle=ga glg=gl glv=gv gom=kok gre=el",
  "grn=gn gug=gn guj=gu hat=ht hau=ha hbs=sr_Latn heb=he hin=hi hrv=hr hun=hu hye=hy ibo=ig",
  "ice=is ido=io iii=ii ike=iu iku=iu ile=ie in=id ina=ia ind=id isl=is ita=it iw=he jav=jv",
  "ji=yi jpn=ja jw=jv kal=kl kan=kn kas=ks kat=ka kaz=kk khk=mn khm=km kik=ki kin=rw kir=ky",
  "kmr=ku kor=ko kur=ku lao=lo lat=la lav=lv lin=ln lit=lt ltz=lb lub=lu lug=lg lvs=lv mac=mk",
  "mal=ml mao=mi mar=mr may=ms mkd=mk mlg=mg mlt=mt mo=ro mol=ro mon=mn mri=mi msa=ms mup=raj",
  "mya=my nav=nv nbl=nr nde=nd nep=ne nld=nl nno=nn nob=nb nor=no npi=ne nya=ny oci=oc ori=or",
  "orm=om ory=or oss=os pan=pa pbu=ps per=fa pes=fa plt=mg pol=pl por=pt prp=gu prs=fa_AF",
  "pus=ps que=qu quz=qu roh=rm ron=ro rum=ro run=rn rus=ru sag=sg san=sa scc=sr scr=hr",
  "sh=sr_Latn sin=si slk=sk slo=sk slv=sl sme=se sna=sn snd=sd som=so sot=st spa=es spy=kln",
  "sqi=sq src=sc srd=sc srp=sr ssw=ss sun=su swa=sw swc=sw_CD swe=sv swh=sw tam=ta tat=tt",
  "tel=te tgk=tg tgl=fil tha=th tib=bo tir=ti tl=fil tnf=fa_AF ton=to tsn=tn tso=ts tuk=tk",
  "tur=tr tw=ak twi=ak uig=ug ukr=uk urd=ur uzb=uz uzn=uz ven=ve vie=vi vol=vo wel=cy wln=wa",
  "wol=wo xho=xh xpe=kpe ydd=yi yid=yi yor=yo zha=za zho=zh zsm=ms zul=zu zyb=za"]

/-- Replacements of former territories. -/
def territoryAliasLines : List String := [
  "AN=CW BU=MM CS=RS CT=KI DD=DE DY=BJ FQ=AQ FX=FR HV=BF JT=UM MI=UM NH=VU NQ=AQ NT=SA PC=FM",
  "PU=UM PZ=PA QU=EU RH=ZW SU=RU TP=TL UK=GB VD=VN WK=UM YD=YE YU=RS ZR=CD"]

/-- Replacements of private scripts. -/
def scriptAliasLines : List String := [
  "Qaai=Zinh"]

/-- Replacements of variants. -/
def variantAliasLines : List String := [
  "heploc=alalc97 polytoni=polyton"]

/-- The full identifier that an incomplete one most likely means. -/
def likelyLines : List String := [
  "aa=aa_Latn_ET ab=ab_Cyrl_GE af=af_Latn_ZA agq=agq_Latn_CM ak=ak_Latn_GH am=am_Ethi_ET",
  "an=an_Latn_ES ann=ann_Latn_NG apc=apc_Arab_SY ar=ar_Arab_EG arn=arn_Latn_CL as=as_Beng_IN",
  "asa=asa_Latn_TZ ast=ast_Latn_ES az=az_Latn_AZ az_Arab=az_Arab_IR az_IQ=az_Arab_IQ",
  "az_IR=az_Arab_IR ba=ba_Cyrl_RU bal=bal_Arab_PK bas=bas_Latn_CM be=be_Cyrl_BY bem=bem_Latn_ZM",
  "bew=bew_Latn_ID bez=bez_Latn_TZ bg=bg_Cyrl_BG bgc=bgc_Deva_IN bgn=bgn_Arab_PK",
  "bho=bho_Deva_IN blo=blo_Latn_BJ blt=blt_Tavt_VN bm=bm_Latn_ML bn=bn_Beng_BD bo=bo_Tibt_CN",
  "br=br_Latn_FR brx=brx_Deva_IN bs=bs_Latn_BA bss=bss_Latn_CM byn=byn_Ethi_ER ca=ca_Latn_ES",
  "cad=cad_Latn_US cch=cch_Latn_NG ccp=ccp_Cakm_BD ce=ce_Cyrl_RU ceb=ceb_Latn_PH",
  "cgg=cgg_Latn_UG cho=cho_Latn_US chr=chr_Cher_US cic=cic_Latn_US ckb=ckb_Arab_IQ",
  "co=co_Latn_FR cop=cop_Copt_EG cs=cs_Latn_CZ csw=csw_Cans_CA cu=cu_Cyrl_RU cv=cv_Cyrl_RU",
  "cy=cy_Latn_GB da=da_Latn_DK dav=dav_Latn_KE de=de_Latn_DE dje=dje_Latn_NE doi=doi_Deva_IN",
  "dsb=dsb_Latn_DE dua=dua_Latn_CM dv=dv_Thaa_MV dyo=dyo_Latn_SN dz=dz_Tibt_BT ebu=ebu_Latn_KE",
  "ee=ee_Latn_GH el=el_Grek_GR en=en_Latn_US en_Shaw=en_Shaw_GB eo=eo_Latn_001 es=es_Latn_ES",
  "et=et_Latn_EE eu=eu_Latn_ES ewo=ewo_Latn_CM fa=fa_Arab_IR ff=ff_Latn_SN ff_Adlm=ff_Adlm_GN",
  "fi=fi_Latn_FI fil=fil_Latn_PH fo=fo_Latn_FO fr=fr_Latn_FR frr=frr_Latn_DE fur=fur_Latn_IT",
  "fy=fy_Latn_NL ga=ga_Latn_IE gaa=gaa_Latn_GH gd=gd_Latn_GB gez=gez_Ethi_ET gl=gl_Latn_ES",
  "gn=gn_Latn_PY gsw=gsw_Latn_CH gu=gu_Gujr_IN guz=guz_Latn_KE gv=gv_Latn_IM ha=ha_Latn_NG",
  "ha_SD=ha_Arab_SD haw=haw_Latn_US he=he_Hebr_IL hi=hi_Deva_IN hnj=hnj_Hmnp_US hr=hr_Latn_HR",
  "hsb=hsb_Latn_DE ht=ht_Latn_HT hu=hu_Latn_HU hy=hy_Armn_AM ia=ia_Latn_001 id=id_Latn_ID",
  "ie=ie_Latn_EE ig=ig_Latn_NG ii=ii_Yiii_CN io=io_Latn_001 is=is_Latn_IS it=it_Latn_IT",
  "iu=iu_Cans_CA ja=ja_Jpan_JP jbo=jbo_Latn_001 jgo=jgo_Latn_CM jmc=jmc_Latn_TZ jv=jv_Latn_ID",
  "ka=ka_Geor_GE kaa=kaa_Cyrl_UZ kab=kab_Latn_DZ kaj=kaj_Latn_NG kam=kam_Latn_KE",
  "kcg=kcg_Latn_NG kde=kde_Latn_TZ kea=kea_Latn_CV ken=ken_Latn_CM kgp=kgp_Latn_BR",
  "khq=khq_Latn_ML ki=ki_Latn_KE kk=kk_Cyrl_KZ kk_Arab=kk_Arab_CN kk_CN=kk_Arab_CN",
  "kkj=kkj_Latn_CM kl=kl_Latn_GL kln=kln_Latn_KE km=km_Khmr_KH kn=kn_Knda_IN ko=ko_Kore_KR",
  "kok=kok_Deva_IN kpe=kpe_Latn_LR ks=ks_Arab_IN ksb=ksb_Latn_TZ ksf=ksf_Latn_CM",
  "ksh=ksh_Latn_DE ku=ku_Latn_TR kw=kw_Latn_GB kxv=kxv_Latn_IN ky=ky_Cyrl_KG la=la_Latn_VA",
  "lag=lag_Latn_TZ lb=lb_Latn_LU lg=lg_Latn_UG lij=lij_Latn_IT lkt=lkt_Latn_US lld=lld_Latn_IT",
  "lmo=lmo_Latn_IT ln=ln_Latn_CD lo=lo_Laoo_LA lrc=lrc_Arab_IR lt=lt_Latn_LT ltg=ltg_Latn_LV",
  "lu=lu_Latn_CD luo=luo_Latn_KE luy=luy_Latn_KE lv=lv_Latn_LV mai=mai_Deva_IN mas=mas_Latn_KE",
  "mdf=mdf_Cyrl_RU mer=mer_Latn_KE mfe=mfe_Latn_MU mg=mg_Latn_MG mgh=mgh_Latn_MZ",
  "mgo=mgo_Latn_CM mhn=mhn_Latn_IT mi=mi_Latn_NZ mic=mic_Latn_CA mk=mk_Cyrl_MK ml=ml_Mlym_IN",
  "mn=mn_Cyrl_MN mn_CN=mn_Mong_CN mn_Mong=mn_Mong_CN mni=mni_Beng_IN moh=moh_Latn_CA",
  "mr=mr_Deva_IN ms=ms_Latn_MY mt=mt_Latn_MT mua=mua_Latn_CM mus=mus_Latn_US my=my_Mymr_MM",
  "myv=myv_Cyrl_RU mzn=mzn_Arab_IR naq=naq_Latn_NA nb=nb_Latn_NO nd=nd_Latn_ZW nds=nds_Latn_DE",
  "ne=ne_Deva_NP nl=nl_Latn_NL nmg=nmg_Latn_CM nn=nn_Latn_NO nnh=nnh_Latn_CM no=no_Latn_NO",
  "nqo=nqo_Nkoo_GN nr=nr_Latn_ZA nso=nso_Latn_ZA nus=nus_Latn_SS nv=nv_Latn_US ny=ny_Latn_MW",
  "nyn=nyn_Latn_UG oc=oc_Latn_FR om=om_Latn_ET or=or_Orya_IN os=os_Cyrl_GE osa=osa_Osge_US",
  "pa=pa_Guru_IN pa_Arab=pa_Arab_PK pa_PK=pa_Arab_PK pap=pap_Latn_CW pcm=pcm_Latn_NG",
  "pis=pis_Latn_SB pl=pl_Latn_PL prg=prg_Latn_PL ps=ps_Arab_AF pt=pt_Latn_BR qu=qu_Latn_PE",
  "quc=quc_Latn_GT raj=raj_Deva_IN rhg=rhg_Rohg_MM rif=rif_Latn_MA rm=rm_Latn_CH rn=rn_Latn_BI",
  "ro=ro_Latn_RO rof=rof_Latn_TZ ru=ru_Cyrl_RU rw=rw_Latn_RW rwk=rwk_Latn_TZ sa=sa_Deva_IN",
  "sah=sah_Cyrl_RU saq=saq_Latn_KE sat=sat_Olck_IN sbp=sbp_Latn_TZ sc=sc_Latn_IT",
  "scn=scn_Latn_IT sd=sd_Arab_PK sd_Deva=sd_Deva_IN sd_IN=sd_Deva_IN sdh=sdh_Arab_IR",
  "se=se_Latn_NO seh=seh_Latn_MZ ses=ses_Latn_ML sg=sg_Latn_CF shi=shi_Tfng_MA shn=shn_Mymr_MM",
  "si=si_Sinh_LK sid=sid_Latn_ET sk=sk_Latn_SK skr=skr_Arab_PK sl=sl_Latn_SI sma=sma_Latn_SE",
  "smj=smj_Latn_SE smn=smn_Latn_FI sms=sms_Latn_FI sn=sn_Latn_ZW so=so_Latn_SO sq=sq_Latn_AL",
  "sr=sr_Cyrl_RS sr_ME=sr_Latn_ME ss=ss_Latn_ZA ssy=ssy_Latn_ER st=st_Latn_ZA su=su_Latn_ID",
  "sv=sv_Latn_SE sw=sw_Latn_TZ syr=syr_Syrc_IQ szl=szl_Latn_PL ta=ta_Taml_IN te=te_Telu_IN",
  "teo=teo_Latn_UG tg=tg_Cyrl_TJ th=th_Thai_TH ti=ti_Ethi_ET tig=tig_Ethi_ER tk=tk_Latn_TM",
  "tn=tn_Latn_ZA to=to_Latn_TO tok=tok_Latn_001 tpi=tpi_Latn_PG tr=tr_Latn_TR trv=trv_Latn_TW",
  "trw=trw_Arab_PK ts=ts_Latn_ZA tt=tt_Cyrl_RU twq=twq_Latn_NE tyv=tyv_Cyrl_RU tzm=tzm_Latn_MA",
  "ug=ug_Arab_CN uk=uk_Cyrl_UA und=en_Latn_US und_419=es_Latn_419 und_AD=ca_Latn_AD",
  "und_AE=ar_Arab_AE und_AF=fa_Arab_AF und_AL=sq_Latn_AL und_AM=hy_Armn_AM und_AO=pt_Latn_AO",
  "und_AR=es_Latn_AR und_AT=de_Latn_AT und_AW=nl_Latn_AW und_AX=sv_Latn_AX und_AZ=az_Latn_AZ",
  "und_Adlm=ff_Adlm_GN und_Arab=ar_Arab_EG und_Arab_AF=fa_Arab_AF und_Arab_BN=ms_Arab_BN",
  "und_Arab_CN=ug_Arab_CN und_Arab_ID=ms_Arab_ID und_Arab_IN=ur_Arab_IN und_Arab_IR=fa_Arab_IR",
  "und_Arab_NG=ha_Arab_NG und_Arab_PK=ur_Arab_PK und_Armn=hy_Armn_AM und_BA=bs_Latn_BA",
  "und_BD=bn_Beng_BD und_BE=nl_Latn_BE und_BF=fr_Latn_BF und_BG=bg_Cyrl_BG und_BH=ar_Arab_BH",
  "und_BI=rn_Latn_BI und_BJ=fr_Latn_BJ und_BL=fr_Latn_BL und_BN=ms_Latn_BN und_BO=es_Latn_BO",
  "und_BR=pt_Latn_BR und_BT=dz_Tibt_BT und_BY=be_Cyrl_BY und_Beng=bn_Beng_BD",
  "und_Bhks=sa_Bhks_IN und_Brai=fr_Brai_FR und_CD=fr_Latn_CD und_CF=sg_Latn_CF",
  "und_CG=fr_Latn_CG und_CH=de_Latn_CH und_CI=fr_Latn_CI und_CL=es_Latn_CL und_CM=fr_Latn_CM",
  "und_CN=zh_Hans_CN und_CO=es_Latn_CO und_CR=es_Latn_CR und_CU=es_Latn_CU und_CV=pt_Latn_CV",
  "und_CW=pap_Latn_CW und_CY=el_Grek_CY und_CZ=cs_Latn_CZ und_Cakm=ccp_Cakm_BD",
  "und_Cans=iu_Cans_CA und_Cher=chr_Cher_US und_Copt=cop_Copt_EG und_Cyrl=ru_Cyrl_RU",
  "und_Cyrl_AZ=az_Cyrl_AZ und_Cyrl_BA=sr_Cyrl_BA und_Cyrl_BG=bg_Cyrl_BG und_Cyrl_BY=be_Cyrl_BY",
  "und_Cyrl_GE=ab_Cyrl_GE und_Cyrl_KG=ky_Cyrl_KG und_Cyrl_ME=sr_Cyrl_ME und_Cyrl_MK=mk_Cyrl_MK",
  "und_Cyrl_MN=mn_Cyrl_MN und_Cyrl_RS=sr_Cyrl_RS und_Cyrl_TJ=tg_Cyrl_TJ und_Cyrl_UA=uk_Cyrl_UA",
  "und_Cyrl_UZ=uz_Cyrl_UZ und_Cyrl_XK=sr_Cyrl_XK und_DE=de_Latn_DE und_DJ=fr_Latn_DJ",
  "und_DK=da_Latn_DK und_DO=es_Latn_DO und_DZ=ar_Arab_DZ und_Deva=hi_Deva_IN",
  "und_Deva_NP=ne_Deva_NP und_Diak=dv_Diak_MV und_Dogr=doi_Dogr_IN und_Dupl=fr_Dupl_FR",
  "und_EA=es_Latn_EA und_EC=es_Latn_EC und_EE=et_Latn_EE und_EG=ar_Arab_EG und_EH=ar_Arab_EH",
  "und_ER=ti_Ethi_ER und_ES=es_Latn_ES und_ET=am_Ethi_ET und_Elba=sq_Elba_AL",
  "und_Ethi=am_Ethi_ET und_Ethi_ER=ti_Ethi_ER und_FI=fi_Latn_FI und_FO=fo_Latn_FO",
  "und_FR=fr_Latn_FR und_GA=fr_Latn_GA und_GE=ka_Geor_GE und_GF=fr_Latn_GF und_GH=ak_Latn_GH",
  "und_GL=kl_Latn_GL und_GN=fr_Latn_GN und_GP=fr_Latn_GP und_GQ=es_Latn_GQ und_GR=el_Grek_GR",
  "und_GT=es_Latn_GT und_GW=pt_Latn_GW und_Gara=wo_Gara_SN und_Geor=ka_Geor_GE",
  "und_Gran=sa_Gran_IN und_Grek=el_Grek_GR und_Gujr=gu_Gujr_IN und_Guru=pa_Guru_IN",
  "und_HK=zh_Hant_HK und_HN=es_Latn_HN und_HR=hr_Latn_HR und_HT=ht_Latn_HT und_HU=hu_Latn_HU",
  "und_Hang=ko_Hang_KR und_Hans=zh_Hans_CN und_Hant=zh_Hant_TW und_Hant_CN=yue_Hant_CN",
  "und_Hebr=he_Hebr_IL und_Hebr_UA=yi_Hebr_UA und_Hira=ja_Hira_JP und_Hmnp=hnj_Hmnp_US",
  "und_Hung=hu_Hung_HU und_IC=es_Latn_IC und_ID=id_Latn_ID und_IL=he_Hebr_IL und_IN=hi_Deva_IN",
  "und_IQ=ar_Arab_IQ und_IR=fa_Arab_IR und_IS=is_Latn_IS und_IT=it_Latn_IT und_JO=ar_Arab_JO",
  "und_JP=ja_Jpan_JP und_Jamo=ko_Jamo_KR und_Java=jv_Java_ID und_Jpan=ja_Jpan_JP",
  "und_KE=sw_Latn_KE und_KG=ky_Cyrl_KG und_KH=km_Khmr_KH und_KM=ar_Arab_KM und_KP=ko_Kore_KP",
  "und_KR=ko_Kore_KR und_KW=ar_Arab_KW und_KZ=ru_Cyrl_KZ und_Kana=ja_Kana_JP",
  "und_Khmr=km_Khmr_KH und_Knda=kn_Knda_IN und_Kore=ko_Kore_KR und_Kthi=bho_Kthi_IN",
  "und_LA=lo_Laoo_LA und_LB=ar_Arab_LB und_LI=de_Latn_LI und_LK=si_Sinh_LK und_LS=st_Latn_LS",
  "und_LT=lt_Latn_LT und_LU=fr_Latn_LU und_LV=lv_Latn_LV und_LY=ar_Arab_LY und_Laoo=lo_Laoo_LA",
  "und_Latn_AE=en_Latn_AE und_Latn_CC=en_Latn_CC und_Latn_CN=za_Latn_CN und_Latn_CY=tr_Latn_CY",
  "und_Latn_DZ=fr_Latn_DZ und_Latn_ER=en_Latn_ER und_Latn_HK=en_Latn_HK und_Latn_IL=en_Latn_IL",
  "und_Latn_IN=en_Latn_IN und_Latn_KM=fr_Latn_KM und_Latn_MA=fr_Latn_MA und_Latn_MK=sq_Latn_MK",
  "und_Latn_MO=en_Latn_MO und_Latn_MR=fr_Latn_MR und_Latn_MV=en_Latn_MV und_Latn_PK=en_Latn_PK",
  "und_Latn_SD=en_Latn_SD und_Latn_SS=en_Latn_SS und_Latn_TD=fr_Latn_TD und_Latn_TN=fr_Latn_TN",
  "und_Latn_TW=trv_Latn_TW und_MA=ar_Arab_MA und_MC=fr_Latn_MC und_MD=ro_Latn_MD",
  "und_ME=sr_Latn_ME und_MF=fr_Latn_MF und_MG=mg_Latn_MG und_MK=mk_Cyrl_MK und_ML=bm_Latn_ML",
  "und_MM=my_Mymr_MM und_MN=mn_Cyrl_MN und_MO=zh_Hant_MO und_MQ=fr_Latn_MQ und_MR=ar_Arab_MR",
  "und_MT=mt_Latn_MT und_MU=fr_Latn_MU und_MV=dv_Thaa_MV und_MX=es_Latn_MX und_MY=ms_Latn_MY",
  "und_MZ=pt_Latn_MZ und_Mahj=hi_Mahj_IN und_Marc=bo_Marc_CN und_Mlym=ml_Mlym_IN",
  "und_Modi=mr_Modi_IN und_Mong=mn_Mong_CN und_Mtei=mni_Mtei_IN und_Mult=skr_Mult_PK",
  "und_Mymr=my_Mymr_MM und_NA=af_Latn_NA und_NC=fr_Latn_NC und_NE=ha_Latn_NE und_NI=es_Latn_NI",
  "und_NL=nl_Latn_NL und_NO=nb_Latn_NO und_NP=ne_Deva_NP und_Nand=sa_Nand_IN",
  "und_Nkoo_ML=bm_Nkoo_ML und_OM=ar_Arab_OM und_Olck=sat_Olck_IN und_Orya=or_Orya_IN",
  "und_Osge=osa_Osge_US und_Osma=so_Osma_SO und_PA=es_Latn_PA und_PE=es_Latn_PE",
  "und_PF=fr_Latn_PF und_PG=tpi_Latn_PG und_PH=fil_Latn_PH und_PK=ur_Arab_PK und_PL=pl_Latn_PL",
  "und_PM=fr_Latn_PM und_PR=es_Latn_PR und_PS=ar_Arab_PS und_PT=pt_Latn_PT und_PY=gn_Latn_PY",
  "und_QA=ar_Arab_QA und_RE=fr_Latn_RE und_RO=ro_Latn_RO und_RS=sr_Cyrl_RS und_RU=ru_Cyrl_RU",
  "und_RW=rw_Latn_RW und_Rohg=rhg_Rohg_MM und_SA=ar_Arab_SA und_SC=fr_Latn_SC und_SD=ar_Arab_SD",
  "und_SE=sv_Latn_SE und_SI=sl_Latn_SI und_SJ=nb_Latn_SJ und_SK=sk_Latn_SK und_SM=it_Latn_SM",
  "und_SN=wo_Latn_SN und_SO=so_Latn_SO und_SR=nl_Latn_SR und_SS=ar_Arab_SS und_ST=pt_Latn_ST",
  "und_SV=es_Latn_SV und_SY=ar_Arab_SY und_Shaw=en_Shaw_GB und_Shrd=sa_Shrd_IN",
  "und_Sidd=sa_Sidd_IN und_Sinh=si_Sinh_LK und_Syrc=syr_Syrc_IQ und_TD=ar_Arab_TD",
  "und_TG=fr_Latn_TG und_TH=th_Thai_TH und_TJ=tg_Cyrl_TJ und_TL=pt_Latn_TL und_TM=tk_Latn_TM",
  "und_TN=ar_Arab_TN und_TO=to_Latn_TO und_TR=tr_Latn_TR und_TW=zh_Hant_TW und_TZ=sw_Latn_TZ",
  "und_Takr=doi_Takr_IN und_Taml=ta_Taml_IN und_Tavt=blt_Tavt_VN und_Telu=te_Telu_IN",
  "und_Tfng=zgh_Tfng_MA und_Tglg=fil_Tglg_PH und_Thaa=dv_Thaa_MV und_Thai=th_Thai_TH",
  "und_Tibt=bo_Tibt_CN und_Tibt_BT=dz_Tibt_BT und_Tirh=mai_Tirh_IN und_Todr=sq_Todr_AL",
  "und_Tutg=sa_Tutg_IN und_UA=uk_Cyrl_UA und_UG=sw_Latn_UG und_UY=es_Latn_UY und_UZ=uz_Latn_UZ",
  "und_VA=it_Latn_VA und_VE=es_Latn_VE und_VN=vi_Latn_VN und_Vaii=vai_Vaii_LR",
  "und_Vith=sq_Vith_AL und_WF=fr_Latn_WF und_XK=sq_Latn_XK und_YE=ar_Arab_YE und_YT=fr_Latn_YT",
  "und_Yiii=ii_Yiii_CN und_ZW=sn_Latn_ZW ur=ur_Arab_PK uz=uz_Latn_UZ uz_AF=uz_Arab_AF",
  "uz_Arab=uz_Arab_AF vai=vai_Vaii_LR ve=ve_Latn_ZA vec=vec_Latn_IT vi=vi_Latn_VN",
  "vmw=vmw_Latn_MZ vo=vo_Latn_001 vun=vun_Latn_TZ wa=wa_Latn_BE wae=wae_Latn_CH wal=wal_Ethi_ET",
  "wbp=wbp_Latn_AU wo=wo_Latn_SN xh=xh_Latn_ZA xnr=xnr_Deva_IN xog=xog_Latn_UG yav=yav_Latn_CM",
  "yi=yi_Hebr_UA yo=yo_Latn_NG yrl=yrl_Latn_BR yue=yue_Hant_HK yue_CN=yue_Hans_CN",
  "yue_Hans=yue_Hans_CN za=za_Latn_CN zgh=zgh_Tfng_MA zh=zh_Hans_CN zh_HK=zh_Hant_HK",
  "zh_Hant=zh_Hant_TW zh_MO=zh_Hant_MO zh_TW=zh_Hant_TW zu=zu_Latn_ZA"]

end ResourceAudit.Culture
